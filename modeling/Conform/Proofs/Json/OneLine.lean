import Conform.Json.Printer
import Conform.Proofs.Calendar.Text
import Conform.Proofs.Json

/-!
# Documents on one line

The text of a document without blanks has no control character, whatever its strings hold: a string
escapes them, and nothing else writes one. It is never empty. So documents that are written one a line
are read back line by line.

* `NoControls s`: the text `s` has no control character;
* `Json.noControls_compact`: the text of a document has none;
* `Json.compact_ne_empty`, `Json.pretty_ne_empty`: it is not empty.
-/

namespace Conform

/-- No character of the text is a control below the space. -/
def NoControls (s : String) : Prop := ∀ c ∈ s.toList, 0x20 ≤ c.toNat

namespace NoControls

variable {s t : String}

theorem append (hs : NoControls s) (ht : NoControls t) : NoControls (s ++ t) := by
  intro c hc
  rw [String.toList_append] at hc
  rcases List.mem_append.1 hc with hc | hc
  · exact hs c hc
  · exact ht c hc

theorem ofList {cs : List Char} (h : ∀ c ∈ cs, 0x20 ≤ c.toNat) : NoControls (String.ofList cs) := by
  intro c hc
  rw [String.toList_ofList] at hc
  exact h c hc

theorem ite {p : Prop} [Decidable p] (hs : NoControls s) (ht : NoControls t) :
    NoControls (if p then s else t) := by
  split
  · exact hs
  · exact ht

theorem intercalate (hs : NoControls s) {ts : List String} (hts : ∀ t ∈ ts, NoControls t) :
    NoControls (s.intercalate ts) := by
  induction ts with
  | nil => simp [NoControls]
  | cons t ts ih =>
    obtain ⟨ht, hrest⟩ := List.forall_mem_cons.1 hts
    cases ts with
    | nil => simpa using ht
    | cons u us =>
      rw [String.intercalate_cons_cons]
      exact (ht.append hs).append (ih hrest)

end NoControls

/-! ## Numbers -/

theorem le_toNat_of_mem_toDigits {n : Nat} : ∀ c ∈ Nat.toDigits 10 n, 0x20 ≤ c.toNat := by
  intro c hc
  have hdigit : c.isDigit = true := Nat.isDigit_of_mem_toDigits (by decide) (by decide) hc
  have hrange := Text.toNat_of_isDigit hdigit
  omega

theorem noControls_nat (n : Nat) : NoControls (toString n) := by
  intro c hc
  rw [Nat.toString_eq_repr, Nat.toList_repr] at hc
  exact le_toNat_of_mem_toDigits c hc

theorem noControls_int (i : Int) : NoControls (toString i) := by
  rw [Int.toString_eq_repr]
  cases i with
  | ofNat n => exact noControls_nat n
  | negSucc n => exact NoControls.append (by simp [NoControls]) (noControls_nat (n + 1))

theorem toString_nat_ne_empty (n : Nat) : toString n ≠ "" := by
  intro h
  have hlist : (toString n).toList = [] := by rw [h]; rfl
  rw [Nat.toString_eq_repr, Nat.toList_repr] at hlist
  exact Nat.toDigits_ne_nil hlist

theorem toString_int_ne_empty (i : Int) : toString i ≠ "" := by
  rw [Int.toString_eq_repr]
  cases i with
  | ofNat n => exact toString_nat_ne_empty n
  | negSucc n => simp [Int.repr]

namespace Layout

theorem noControls_zeros (n : Nat) : NoControls (zeros n) := by
  refine .ofList fun c hc => ?_
  rw [List.eq_of_mem_replicate hc]
  decide

variable (l : Layout) {ds : List Char} (lead : Int)

theorem noControls_writePlain (hds : ∀ c ∈ ds, 0x20 ≤ c.toNat) :
    NoControls (l.writePlain ds lead) := by
  unfold writePlain
  dsimp only
  refine .ite ?_ (.ite ?_ ?_)
  · exact (NoControls.append (by simp [NoControls]) (noControls_zeros _)).append (.ofList hds)
  · refine ((NoControls.ofList hds).append (noControls_zeros _)).append (.ite ?_ ?_)
    · simp [NoControls]
    · simp [NoControls]
  · refine ((NoControls.ofList fun c hc => hds c (List.mem_of_mem_take hc)).append ?_).append
      (.ofList fun c hc => hds c (List.mem_of_mem_drop hc))
    simp [NoControls]

theorem noControls_writeScientific (hds : ∀ c ∈ ds, 0x20 ≤ c.toNat) :
    NoControls (l.writeScientific ds lead) := by
  have hpoint : NoControls (if ds.length ≤ 1 then "" else ".") := by
    refine .ite ?_ ?_ <;> simp [NoControls]
  have hsign : NoControls (if lead < 0 then "-" else if l.plus then "+" else "") := by
    refine .ite ?_ (.ite ?_ ?_) <;> simp [NoControls]
  have hfirst : NoControls (String.ofList (ds.take 1)) :=
    .ofList fun c hc => hds c (List.mem_of_mem_take hc)
  have hrest : NoControls (String.ofList (ds.drop 1)) :=
    .ofList fun c hc => hds c (List.mem_of_mem_drop hc)
  have hmark : NoControls "e" := by simp [NoControls]
  exact ((((hfirst.append hpoint).append hrest).append hmark).append hsign).append (noControls_nat _)

theorem noControls_write (d : Decimal) : NoControls (l.write d) :=
  .ite (l.noControls_writePlain d.lead le_toNat_of_mem_toDigits)
    (l.noControls_writeScientific d.lead le_toNat_of_mem_toDigits)

theorem noControls_text (x : Float) : NoControls (l.text x) := by
  have hsign : NoControls (if (Binary.ofFloat x).negative then "-" else "") := by
    refine .ite ?_ ?_ <;> simp [NoControls]
  refine .ite ?_ (.ite (hsign.append ?_) (hsign.append (l.noControls_write _)))
  · simp [NoControls]
  · simp [NoControls]

/-- A decimal has at least one digit in front of a point, or an exponent. -/
theorem write_ne_empty (d : Decimal) : l.write d ≠ "" := by
  have hdigits : Nat.toDigits 10 d.digits ≠ [] := Nat.toDigits_ne_nil
  unfold write writePlain writeScientific
  dsimp only
  split
  · split
    · simp
    · split
      · simp [hdigits]
      · simp
  · simp

theorem text_ne_empty (x : Float) : l.text x ≠ "" := by
  unfold text
  dsimp only
  split
  · simp
  · split
    · simp
    · simp [l.write_ne_empty]

end Layout

theorem Number.noControls_text : (n : Number) → NoControls n.text
  | .int n => noControls_int n.toInt
  | .big n _ => noControls_nat n.toNat
  | .float x _ => Number.layout.noControls_text x

theorem Number.text_ne_empty : (n : Number) → n.text ≠ ""
  | .int n => toString_int_ne_empty n.toInt
  | .big n _ => toString_nat_ne_empty n.toNat
  | .float x _ => Number.layout.text_ne_empty x

namespace Json

/-! ## Strings -/

/-- **A character of a string** is written without a control: those below the space are escaped. -/
theorem le_toNat_of_mem_quoteChar (c : Char) : ∀ d ∈ quoteChar c, 0x20 ≤ d.toNat := by
  have hhex : ∀ n < 16, 0x20 ≤ (hexDigit n).toNat := by decide
  unfold quoteChar
  split_ifs with h1 h2 h3 h4 h5 h6 h7 hlow
  · simp
  · simp
  · simp
  · simp
  · simp
  · simp
  · simp
  · have hhigh : c.toNat / 16 < 16 := by omega
    have hrest : c.toNat % 16 < 16 := by omega
    simp [hhex _ hhigh, hhex _ hrest]
  · simpa using hlow

theorem noControls_quote (s : String) : NoControls (quote s) := by
  have hinside : NoControls (String.ofList (s.toList.flatMap quoteChar)) := by
    refine .ofList fun d hd => ?_
    obtain ⟨c, -, hd⟩ := List.mem_flatMap.1 hd
    exact le_toNat_of_mem_quoteChar c d hd
  have hmark : NoControls "\"" := by simp [NoControls]
  exact (hmark.append hinside).append hmark

/-! ## Documents -/

theorem compactItems_eq (xs : List Json) : compactItems xs = xs.map compact := by
  induction xs with
  | nil => rfl
  | cons j r ih => simp [compactItems, ih]

theorem compactMembers_eq (m : List (String × Json)) :
    compactMembers m = m.map fun e => quote e.1 ++ ":" ++ compact e.2 := by
  induction m with
  | nil => rfl
  | cons e r ih => simp [compactMembers, ih]

/-- **The text of a document has no control character**, at any depth. -/
theorem noControls_compact (j : Json) : NoControls j.compact := by
  induction j using ind with
  | _ j part =>
    cases j with
    | null => simp [compact, NoControls]
    | bool b => cases b <;> simp [compact, NoControls]
    | num n => exact n.noControls_text
    | str s => exact noControls_quote s
    | arr xs =>
      rw [compact, compactItems_eq]
      have hitems : NoControls (",".intercalate (xs.map compact)) := by
        refine .intercalate (by simp [NoControls]) fun t ht => ?_
        obtain ⟨x, hx, rfl⟩ := List.mem_map.1 ht
        exact part x hx
      exact (NoControls.append (by simp [NoControls]) hitems).append (by simp [NoControls])
    | obj m =>
      rw [compact, compactMembers_eq]
      have hmembers : NoControls (",".intercalate (m.map fun e => quote e.1 ++ ":" ++ compact e.2)) := by
        refine .intercalate (by simp [NoControls]) fun t ht => ?_
        obtain ⟨e, he, rfl⟩ := List.mem_map.1 ht
        have hvalue : NoControls e.2.compact := forall_parts_obj.1 part e he
        exact ((noControls_quote e.1).append (by simp [NoControls])).append hvalue
      exact (NoControls.append (by simp [NoControls]) hmembers).append (by simp [NoControls])

theorem compact_ne_empty (j : Json) : j.compact ≠ "" := by
  cases j with
  | null => simp [compact]
  | bool b => cases b <;> simp [compact]
  | num n => exact n.text_ne_empty
  | str s => simp [compact, quote]
  | arr xs => simp [compact]
  | obj m => simp [compact]

theorem block_ne_empty (d : Nat) (o : Char) (closing : String) (ls : List String) :
    block d (String.singleton o) closing ls ≠ "" := by
  cases ls <;> simp [block]

theorem pretty_ne_empty (j : Json) : j.pretty ≠ "" := by
  cases j with
  | arr xs => exact block_ne_empty 0 '[' _ _
  | obj m => exact block_ne_empty 0 '\x7b' _ _
  | _ => exact compact_ne_empty _

end Json

end Conform
