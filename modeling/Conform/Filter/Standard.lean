import Conform.Filter.Parser

/-!
# Filters defined in the language

Definitions that every program may use.
-/

namespace Conform.Filter

/-- The texts of the definitions. -/
def standardText : List String := [
  "def not: if . then false else true end;",
  "def error(f): f | error;",
  "def nan: 0 / 0;",
  "def infinite: 1 / 0;",
  "def select(f): if f then . else empty end;",
  "def values: select(. != null);",
  "def nulls: select(. == null);",
  "def booleans: select(type == \"boolean\");",
  "def numbers: select(type == \"number\");",
  "def strings: select(type == \"string\");",
  "def arrays: select(type == \"array\");",
  "def objects: select(type == \"object\");",
  "def iterables: select(. >= []);",
  "def scalars: select(. < []);",
  "def range($x): range(0; $x; 1);",
  "def range($from; $to): range($from; $to; 1);",
  "def recurse(f): def rec: ., (f | rec); rec;",
  "def recurse: recurse(.[]?);",
  "def repeat(f): def rec: ., (f | rec); rec;",
  "def while(c; f): def rec: if c then ., (f | rec) else empty end; rec;",
  "def until(c; f): def rec: if c then . else f | rec end; rec;",
  "def map(f): [.[] | f];",
  "def map_values(f): .[] |= f;",
  "def walk(f): def rec: (.[]? |= rec) | f; rec;",
  "def del(f): f |= empty;",
  "def first: .[0];",
  "def last: .[-1];",
  "def add(f): reduce f as $x (null; . + $x);",
  "def add: add(.[]);",
  "def isempty(g): first((g | false), true);",
  "def any(g; c): isempty(first(g | c or empty)) | not;",
  "def any(f): any(.[]; f);",
  "def any: any(.[]; .);",
  "def all(g; c): isempty(first(g | c and empty));",
  "def all(f): all(.[]; f);",
  "def all: all(.[]; .);",
  "def keys: keys_unsorted | sort;",
  "def to_entries: [keys_unsorted[] as $k | \x7bkey: $k, value: .[$k]\x7d];",
  "def from_entries: reduce .[] as $x (\x7b\x7d; . + \x7b($x.key): $x.value\x7d);",
  "def with_entries(f): to_entries | map(f) | from_entries;",
  "def in(xs): . as $x | xs | has($x);",
  "def unique_by(f): [group_by(f)[] | .[0]];",
  "def unique: unique_by(.);",
  "def min_by(f): sort_by(f) | .[0];",
  "def max_by(f): sort_by(f) | .[-1];",
  "def min: min_by(.);",
  "def max: max_by(.);",
  "def tostring: if type == \"string\" then . else tojson end;",
  "def tonumber: if type == \"number\" then . else fromjson end;",
  "def join($sep): reduce .[] as $x (null;
     (if . == null then \"\" else . + $sep end) + ($x | tostring)) // \"\";"]

/-- The definitions, in order. -/
def standard : List Definition := (Definition.parseAll? (" ".intercalate standardText)).getD []

end Conform.Filter
