import ConnmanService.Service

/-! # BSS lists

The `BSS` property is an array of one-field structures, each holding an `a{sv}` entry
with `Id` (string), `Signal` and `Frequency` (`int32`).  Both decoders of the file,
`property_changed_cb` and `connman_service_update_properties`, replace `service->bss`
with a fresh array built by the same loop (the source has it twice, differing only in
a log text); `bssDecode` is that loop.  A missing or mistyped field gives an empty
`bssid` or a `0`; an `Id` longer than 17 bytes is cut by `g_strlcpy (bssid, bss, 18)`.

`bssDecode_length` and `bssDecode_getElem` say the decoded list has one entry per
array element, in order.  Against the format itself (`bssValue`, an array of one-field
structures around a dictionary, and `bssSpec`, what a dictionary should decode to, read
with its own lookup `dictField`), `bssDecode_bssValue` says the loop decodes every such
value entry by entry, as long as each string `Id` is a GVariant string, free of `NUL`
bytes. -/

namespace ConnmanService

/-- `g_strlcpy (bss_info.bssid, bss, 18)`: the C string of `bss`, cut to 17 bytes. -/
def bssidOf (s : String) : List UInt8 := (cString s.toUTF8.toList).take 17

/-- One entry of the BSS loop: `temp` is the array element, `bss_entry` its first field. -/
def bssInfoOf (temp : Option Value) : BssInfo :=
  let bssEntry := temp.bind (·.childValue 0)
  { bssid :=
      match lookupValue bssEntry "Id" Value.isString with
      | some v => bssidOf (v.getString.getD "")
      | none => []
    signal :=
      match lookupValue bssEntry "Signal" Value.isInt32 with
      | some v => v.getInt32
      | none => 0
    frequency :=
      match lookupValue bssEntry "Frequency" Value.isInt32 with
      | some v => v.getInt32
      | none => 0 }

/-- The BSS loop: one `bssinfo_t` appended per child of the value. -/
def bssDecode (va : Value) : List BssInfo :=
  (List.range va.nChildren).map fun j => bssInfoOf (va.childValue j)

theorem bssDecode_length (va : Value) : (bssDecode va).length = va.nChildren := by
  simp [bssDecode]

theorem bssDecode_getElem (va : Value) (j : Nat) (h : j < (bssDecode va).length) :
    (bssDecode va)[j] = bssInfoOf (va.childValue j) := by
  simp [bssDecode]

/-! ### The decode law -/

/-- The `BSS` value for a list of dictionaries: an array of one-field structures, each
holding a dictionary. -/
def bssValue (ds : List (List (String × Value))) : Value :=
  .array (ds.map fun d => .tuple [.dict d])

/-- The value of a dictionary under `key`: its first entry with that key. -/
def dictField (d : List (String × Value)) (key : String) : Option Value :=
  (d.find? fun e => e.1 == key).map (·.2)

/-- What a dictionary of the `BSS` list decodes to: the first `min 17 length` bytes of
its string `Id` (empty without one), its `int32` `Signal` and its `int32` `Frequency`
(`0` without one). -/
def bssSpec (d : List (String × Value)) : BssInfo where
  bssid :=
    match dictField d "Id" with
    | some (.str s) => s.toUTF8.toList.take 17
    | _ => []
  signal :=
    match dictField d "Signal" with
    | some (.int32 n) => n
    | _ => 0
  frequency :=
    match dictField d "Frequency" with
    | some (.int32 n) => n
    | _ => 0

theorem lookupValue_dict (d : List (String × Value)) (key : String) (ty : Value → Bool) :
    lookupValue (some (.dict d)) key ty =
      (dictField d key).bind fun v => if ty v then some v else none := by
  show (match d.find? fun e => e.1 == key with
    | some e => if ty e.2 then some e.2 else none
    | none => none) = ((d.find? fun e => e.1 == key).map (·.2)).bind _
  cases d.find? fun e => e.1 == key <;> rfl

/-- One element of the loop decodes its dictionary as the spec says. -/
theorem bssInfoOf_dict (d : List (String × Value))
    (hid : ∀ s, dictField d "Id" = some (.str s) → (0 : UInt8) ∉ s.toUTF8.toList) :
    bssInfoOf (some (.tuple [.dict d])) = bssSpec d := by
  have hv : (some (Value.tuple [.dict d])).bind (·.childValue 0) = some (.dict d) := rfl
  simp only [bssInfoOf, bssSpec, hv, lookupValue_dict]
  congr 1
  · cases h : dictField d "Id" with
    | none => rfl
    | some v =>
        cases v
        case str s =>
          simp only [Option.some_bind, Value.isString, if_true, Value.getString, Option.getD_some,
            bssidOf, cString_of_nulFree (hid s h)]
        all_goals rfl
  · cases h : dictField d "Signal" with
    | none => rfl
    | some v => cases v <;> rfl
  · cases h : dictField d "Frequency" with
    | none => rfl
    | some v => cases v <;> rfl

/-- The loop decodes a `BSS` value into one entry per dictionary, in order, each as the
spec says, when every string `Id` is free of `NUL` bytes. -/
theorem bssDecode_bssValue (ds : List (List (String × Value)))
    (hid : ∀ d ∈ ds, ∀ s, dictField d "Id" = some (.str s) → (0 : UInt8) ∉ s.toUTF8.toList) :
    bssDecode (bssValue ds) = ds.map bssSpec := by
  refine List.ext_getElem (by simp [bssDecode_length, bssValue, Value.nChildren]) fun j h _ => ?_
  have hj : j < ds.length := by simpa [bssDecode_length, bssValue, Value.nChildren] using h
  rw [bssDecode_getElem, List.getElem_map, ← bssInfoOf_dict _ (hid _ (List.getElem_mem hj))]
  simp [bssValue, Value.childValue, hj]

end ConnmanService
