import Mathlib.Data.List.Infix
import Mathlib.Data.BitVec

/-! # Property bags

The daemon talks to the adapter in GVariant values: every property push is a
`(key, variant)` pair, every snapshot an `a{sv}` dictionary of them.  `Value` is the
tagged union of the value shapes that `connman_service.c` reads:

* scalars `s`, `b`, `y`, `q`, `u`, `i` (`str`, `boolean`, `byte`, `uint16`, `uint32`,
  `int32`), the byte string `ay` (`bytes`) and the string array `as` (`strv`);
* the containers `a{sv}` (`dict`, each value already taken out of its variant box, as
  every reader in the file does with `g_variant_get_variant`), arrays `a(...)` (`array`)
  and structures `(...)` (`tuple`).

The readers follow GLib on a value of the wrong type: `g_return_val_if_fail` makes
them return `0`, `FALSE` or `NULL`, which is what `getBoolean`, `getByte`,
`getString` and the others return here.  A `Bag` is the key/value sequence of a
snapshot, in the daemon's order. -/

namespace ConnmanService

/-- A GVariant value, as far as the adapter reads it. -/
inductive Value where
  | str (s : String)
  | boolean (b : Bool)
  | byte (b : UInt8)
  | uint16 (n : UInt16)
  | uint32 (n : UInt32)
  | int32 (n : BitVec 32)
  | bytes (b : List UInt8)
  | strv (l : List String)
  | dict (entries : List (String × Value))
  | array (vs : List Value)
  | tuple (vs : List Value)

/-- A property bag: the entries of an `a{sv}` snapshot, in order. -/
abbrev Bag := List (String × Value)

namespace Value

/-- `g_variant_get_string` / `g_variant_dup_string`: `NULL` off a string. -/
def getString : Value → Option String
  | str s => some s
  | _ => none

/-- `g_variant_get_boolean`. -/
def getBoolean : Value → Bool
  | boolean b => b
  | _ => false

/-- `g_variant_get_byte`. -/
def getByte : Value → UInt8
  | byte b => b
  | _ => 0

/-- `g_variant_get_uint16`. -/
def getUint16 : Value → UInt16
  | uint16 n => n
  | _ => 0

/-- `g_variant_get_uint32`. -/
def getUint32 : Value → UInt32
  | uint32 n => n
  | _ => 0

/-- `g_variant_get_int32`. -/
def getInt32 : Value → BitVec 32
  | int32 n => n
  | _ => 0

/-- `g_variant_dup_strv`: `NULL` off a string array. -/
def dupStrv : Value → Option (List String)
  | strv l => some l
  | _ => none

/-- `g_variant_is_of_type (v, G_VARIANT_TYPE_BYTESTRING)`. -/
def isBytestring : Value → Bool
  | bytes _ => true
  | _ => false

/-- `g_variant_is_of_type (v, G_VARIANT_TYPE_STRING)`. -/
def isString : Value → Bool
  | str _ => true
  | _ => false

/-- `g_variant_is_of_type (v, G_VARIANT_TYPE_INT32)`. -/
def isInt32 : Value → Bool
  | int32 _ => true
  | _ => false

/-- `g_variant_get_data` of the values whose bytes the adapter reads: a byte string, a
byte, and the little-endian fixed-size scalars; strings end in their `NUL`.  The
containers are never read through their data. -/
def data : Value → List UInt8
  | bytes b => b
  | byte b => [b]
  | boolean b => [if b then 1 else 0]
  | uint16 n => [n.toUInt8, (n >>> 8).toUInt8]
  | uint32 n => [n.toUInt8, (n >>> 8).toUInt8, (n >>> 16).toUInt8, (n >>> 24).toUInt8]
  | int32 n => [(n.setWidth 8).toNat.toUInt8, ((n >>> 8).setWidth 8).toNat.toUInt8,
      ((n >>> 16).setWidth 8).toNat.toUInt8, ((n >>> 24).setWidth 8).toNat.toUInt8]
  | str s => s.toUTF8.toList ++ [0]
  | _ => []

/-- The entries of a dictionary read by iterating its children; a value that is not a
dictionary has none the code can use. -/
def entries : Value → List (String × Value)
  | dict es => es
  | _ => []

/-- `g_variant_n_children`: `0` off a container. -/
def nChildren : Value → Nat
  | dict es => es.length
  | array vs => vs.length
  | tuple vs => vs.length
  | bytes b => b.length
  | strv l => l.length
  | _ => 0

/-- `g_variant_get_child_value`; a dictionary's child is its `{sv}` entry, read here as
the pair `(key, value)`.  `NULL` when the index is out of range. -/
def childValue : Value → Nat → Option Value
  | array vs, i => vs[i]?
  | tuple vs, i => vs[i]?
  | dict es, i => es[i]?.map fun e => tuple [str e.1, e.2]
  | bytes b, i => b[i]?.map byte
  | strv l, i => l[i]?.map str
  | _, _ => none

end Value

/-- `g_variant_lookup_value (d, key, type)`: the first entry under `key`, or `NULL` when
there is none or its value is not of `type`. -/
def lookupValue (d : Option Value) (key : String) (ty : Value → Bool) : Option Value :=
  match d with
  | some (.dict es) =>
      match es.find? (fun e => e.1 == key) with
      | some e => if ty e.2 then some e.2 else none
      | none => none
  | _ => none

/-- `g_strrstr (haystack, needle) != NULL`: `needle` occurs in `haystack`. -/
def strrstr (haystack needle : String) : Bool :=
  decide (needle.data <:+: haystack.data)

/-- `strlen` of a byte buffer: the bytes before the first `NUL`. -/
def cStrLen (b : List UInt8) : Nat := (b.takeWhile (· ≠ 0)).length

/-- The C string held by a buffer: its bytes before the first `NUL`. -/
def cString (b : List UInt8) : List UInt8 := b.takeWhile (· ≠ 0)

theorem take_cStrLen (b : List UInt8) : b.take (cStrLen b) = cString b :=
  (List.prefix_iff_eq_take.mp (List.takeWhile_prefix _)).symm

theorem cStrLen_le (b : List UInt8) : cStrLen b ≤ b.length :=
  (List.takeWhile_prefix _).length_le

/-- A buffer without `NUL` is its own C string. -/
theorem cString_of_nulFree {b : List UInt8} (hb : (0 : UInt8) ∉ b) : cString b = b :=
  List.takeWhile_eq_self_iff.mpr fun x hx => by simpa using ne_of_mem_of_not_mem hx hb

/-- `compare_strv`: both `NULL`, or both set with the same length and the same string at
every index. -/
def compareStrv : Option (List String) → Option (List String) → Bool
  | none, none => true
  | some first, some second =>
      first.length == second.length &&
        (List.range first.length).all fun i => first[i]? == second[i]?
  | _, _ => false

theorem compareStrv_iff (a b : Option (List String)) : compareStrv a b = true ↔ a = b := by
  rcases a with _ | a <;> rcases b with _ | b <;> simp only [compareStrv, reduceCtorEq,
    Bool.false_eq_true, Option.some.injEq, Bool.and_eq_true, beq_iff_eq, List.all_eq_true,
    List.mem_range]
  constructor
  · rintro ⟨hl, h⟩
    refine List.ext_getElem? fun i => ?_
    by_cases hi : i < a.length
    · simpa using h i hi
    · rw [List.getElem?_eq_none (by omega), List.getElem?_eq_none (by omega)]
  · rintro rfl
    simp

end ConnmanService
