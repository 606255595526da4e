import Mathlib.Data.Finmap
import Mathlib.Data.List.Sort
import LawFirmDigitalTwin.HashIO

/-!
# Python values as the kernel sees them

The exceptions a call can raise, dictionaries with string keys, and the values a caller may put in
a command's payload. The program looks at such a value only through `str(v)`, `int(v)` and its
canonical JSON, so a value that is not one of the scalars is an `object` that carries these three
observations, each of which may raise; floats, containers and instances of arbitrary classes are
objects.
-/

namespace LawFirmDigitalTwin

/-- The exceptions of the modelled calls. A `gateError` has the text before the colon and the items
listed after it; the others carry what the caller can tell them apart by. -/
inductive PyError
  | gateError (text : String) (items : List String)
  | keyError (key : String)
  | indexError
  | valueError (text : String)
  | typeError (text : String)
  | overflowError
  | invalidOperation
  | decimalOverflow
  | other (name : String)
  deriving DecidableEq

/-- `sorted(s)` of a set of strings. An insertion sort, so that the kernel can run it. -/
def sorted (s : Finset String) : List String :=
  Quotient.liftOn s.val (List.insertionSort (· ≤ ·)) fun _ _ h =>
    (((List.perm_insertionSort _ _).trans h).trans (List.perm_insertionSort _ _).symm).eq_of_pairwise'
      (List.pairwise_insertionSort _ _) (List.pairwise_insertionSort _ _)

/-- Sorting lists the elements of a set. -/
theorem coe_sorted (s : Finset String) : (↑(sorted s) : Multiset String) = s.val := by
  obtain ⟨⟨l⟩, hl⟩ := s
  exact Multiset.coe_eq_coe.2 (List.perm_insertionSort _ l)

@[simp] theorem mem_sorted {s : Finset String} {a : String} : a ∈ sorted s ↔ a ∈ s := by
  rw [← Multiset.mem_coe, coe_sorted, Finset.mem_val]

/-- A sorted set is in order. -/
theorem pairwise_sorted (s : Finset String) : (sorted s).Pairwise (· ≤ ·) := by
  obtain ⟨⟨l⟩, hl⟩ := s
  exact List.pairwise_insertionSort _ _

/-- A sorted set lists each element once. -/
theorem nodup_sorted (s : Finset String) : (sorted s).Nodup :=
  Multiset.coe_nodup.1 (coe_sorted s ▸ s.nodup)

/-- A dictionary with string keys. Two are equal when they have the same entries, whatever order
they were inserted in. -/
abbrev PyDict (α : Type) := Finmap fun _ : String => α

namespace PyDict

variable {α : Type}

/-- `d[key] = v`. -/
def set (d : PyDict α) (key : String) (v : α) : PyDict α := d.insert key v

/-- A dictionary display; a later entry for the same key wins. -/
def ofEntries (entries : List (String × α)) : PyDict α :=
  entries.foldl (fun d e => d.set e.1 e.2) ∅

/-- `d.get(key)`. -/
def get? (d : PyDict α) (key : String) : Option α := d.lookup key

/-- `d[key]`. -/
def getItem (d : PyDict α) (key : String) : Except PyError α :=
  match d.get? key with
  | some v => .ok v
  | none => .error (.keyError key)

/-- `d[key]` is what `d.get(key)` finds. -/
theorem getItem_eq_ok {d : PyDict α} {key : String} {v : α} :
    d.getItem key = .ok v ↔ d.get? key = some v := by
  unfold getItem
  cases d.get? key with
  | none => simp
  | some w => simp

@[simp] theorem get?_empty (key : String) : (∅ : PyDict α).get? key = none := rfl

@[simp] theorem get?_set_self (d : PyDict α) (key : String) (v : α) :
    (d.set key v).get? key = some v :=
  Finmap.lookup_insert d

/-- Setting a key leaves the other keys as they are. -/
theorem get?_set_ne (d : PyDict α) {key key' : String} (v : α) (h : key' ≠ key) :
    (d.set key v).get? key' = d.get? key' :=
  Finmap.lookup_insert_of_ne d h

/-- What a key holds after a key has been set. -/
theorem get?_set (d : PyDict α) (key key' : String) (v : α) :
    (d.set key v).get? key' = if key' = key then some v else d.get? key' := by
  by_cases h : key' = key
  · subst h; simp
  · rw [get?_set_ne d v h, if_neg h]

/-- Dictionaries with the same values under all keys are equal. -/
theorem ext {d d' : PyDict α} (h : ∀ key, d.get? key = d'.get? key) : d = d' :=
  Finmap.ext_lookup h

/-- What a dictionary display holds was written in it. -/
theorem mem_of_get?_ofEntries {es : List (String × α)} {key : String} {v : α}
    (h : (ofEntries es).get? key = some v) : (key, v) ∈ es := by
  have main : ∀ (es : List (String × α)) (d : PyDict α),
      (es.foldl (fun d e => d.set e.1 e.2) d).get? key = some v →
        (key, v) ∈ es ∨ d.get? key = some v := by
    intro es
    induction es with
    | nil => exact fun d h => .inr h
    | cons e es ih =>
      intro d h
      rcases ih _ h with h | h
      · exact .inl (.tail _ h)
      · rw [get?_set] at h
        split at h
        · next hk => cases h; subst hk; exact .inl (.head _)
        · exact .inr h
  rcases main es ∅ h with h | h
  · exact h
  · cases h

/-- The last entry of a display is set last. -/
theorem ofEntries_concat (es : List (String × α)) (e : String × α) :
    ofEntries (es ++ [e]) = (ofEntries es).set e.1 e.2 := by
  simp [ofEntries, List.foldl_append]

/-- What is under a key after updates: what they wrote last, or else what was there. -/
theorem get?_foldl_set (es : List (String × α)) (d : PyDict α) (key : String) :
    (es.foldl (fun d e => d.set e.1 e.2) d).get? key = ((ofEntries es).get? key).or (d.get? key) := by
  induction es using List.reverseRecOn with
  | nil => rfl
  | append_singleton es e ih =>
    rw [List.foldl_append, ofEntries_concat]
    show ((es.foldl (fun d e => d.set e.1 e.2) d).set e.1 e.2).get? key = _
    rw [get?_set, get?_set, ih]
    split <;> rfl

/-- The keys of a display. -/
theorem keys_ofEntries (es : List (String × α)) : (ofEntries es).keys = (es.map (·.1)).toFinset := by
  induction es using List.reverseRecOn with
  | nil => rfl
  | append_singleton es e ih =>
    ext key
    rw [ofEntries_concat, Finmap.mem_keys, set, Finmap.mem_insert, ← Finmap.mem_keys, ih]
    simp

/-- What a dictionary display holds under a key is what was written under it last. -/
theorem get?_ofEntries_iff {es : List (String × α)} {key : String} {value : α} :
    (ofEntries es).get? key = some value ↔
      ∃ before after, es = before ++ (key, value) :: after ∧ ∀ p ∈ after, p.1 ≠ key := by
  induction es using List.reverseRecOn with
  | nil => simp [ofEntries]
  | append_singleton es e ih =>
    rw [ofEntries_concat, get?_set]
    split
    · next hkey =>
      subst hkey
      constructor
      · intro h
        cases h
        exact ⟨es, [], rfl, nofun⟩
      · rintro ⟨before, after, heq, hafter⟩
        rcases List.eq_nil_or_concat after with rfl | ⟨after, e', rfl⟩
        · obtain ⟨-, heq⟩ := List.append_inj' heq rfl
          rw [List.singleton_inj.1 heq]
        · rw [List.concat_eq_append] at heq hafter
          rw [← List.cons_append, ← List.append_assoc] at heq
          obtain ⟨-, heq⟩ := List.append_inj' heq rfl
          rw [List.singleton_inj] at heq
          exact absurd rfl (heq ▸ hafter e' (by simp))
    · next hkey =>
      rw [ih]
      constructor
      · rintro ⟨before, after, rfl, hafter⟩
        refine ⟨before, after ++ [e], by simp, fun p hp => ?_⟩
        rcases List.mem_append.1 hp with hp | hp
        · exact hafter p hp
        · rw [List.mem_singleton.1 hp]
          exact Ne.symm hkey
      · rintro ⟨before, after, heq, hafter⟩
        rcases List.eq_nil_or_concat after with rfl | ⟨after, e', rfl⟩
        · obtain ⟨-, heq⟩ := List.append_inj' heq rfl
          rw [List.singleton_inj.1 heq] at hkey
          exact absurd rfl hkey
        · rw [List.concat_eq_append] at heq hafter
          rw [← List.cons_append, ← List.append_assoc] at heq
          obtain ⟨heq, -⟩ := List.append_inj' heq rfl
          exact ⟨before, after, heq, fun p hp => hafter p (List.mem_append_left _ hp)⟩

/-- Under distinct keys, a dictionary display holds all that was written in it. -/
theorem get?_ofEntries_of_mem {es : List (String × α)} (hnd : (es.map (·.1)).Nodup) {key : String}
    {v : α} (h : (key, v) ∈ es) : (ofEntries es).get? key = some v := by
  induction es using List.reverseRecOn with
  | nil => cases h
  | append_singleton es e ih =>
    rw [List.map_append, List.nodup_append] at hnd
    rw [ofEntries_concat, get?_set]
    rcases List.mem_append.1 h with h | h
    · have hne : key ≠ e.1 := hnd.2.2 key (List.mem_map_of_mem h) e.1 (by simp)
      rw [if_neg hne, ih hnd.1 h]
    · rw [List.mem_singleton] at h
      rw [← h, if_pos rfl]

/-- What a dictionary of items holds under a key is an item that has this key. -/
theorem mem_of_get?_keyed {key : α → String} {items : List α} {k : String} {item : α}
    (h : (ofEntries (items.map fun item => (key item, item))).get? k = some item) :
    item ∈ items ∧ key item = k := by
  obtain ⟨item', hitem', heq⟩ := List.mem_map.1 (mem_of_get?_ofEntries h)
  obtain ⟨hkey, rfl⟩ := Prod.mk.inj heq
  exact ⟨hitem', hkey⟩

/-- Items of distinct keys are all found. -/
theorem get?_keyed_of_mem {key : α → String} {items : List α} (hnodup : (items.map key).Nodup)
    {item : α} (h : item ∈ items) :
    (ofEntries (items.map fun item => (key item, item))).get? (key item) = some item := by
  refine get?_ofEntries_of_mem ?_ (List.mem_map_of_mem h)
  rwa [List.map_map]

/-- A dictionary of one item holds it under its key. -/
theorem get?_keyed_singleton (key : α → String) (item : α) :
    (ofEntries ([item].map fun item => (key item, item))).get? (key item) = some item :=
  @get?_keyed_of_mem α key [item] (List.nodup_singleton (key item)) item (List.mem_singleton_self _)

/-- `{key: f(v) for key, v in d.items()}`. -/
def mapValues {β : Type} (f : α → β) (d : PyDict α) : PyDict β :=
  ⟨(Finmap.entries d).map (.map id fun _ => f), by
    obtain ⟨⟨l⟩, hl⟩ := d
    exact List.NodupKeys.map₂ (fun _ => f) l hl⟩

@[simp] theorem get?_mapValues {β : Type} (f : α → β) (d : PyDict α) (key : String) :
    (d.mapValues f).get? key = (d.get? key).map f := by
  obtain ⟨⟨l⟩, hl⟩ := d
  exact List.dlookup_map₂ key

/-- The entries, sorted by key. -/
def entries (d : PyDict α) : List (String × α) :=
  (sorted d.keys).filterMap fun key => (d.get? key).map (key, ·)

/-- The entries are the keys with what they hold. -/
theorem mem_entries {d : PyDict α} {key : String} {v : α} :
    (key, v) ∈ d.entries ↔ d.get? key = some v := by
  simp only [entries, List.mem_filterMap, mem_sorted, Option.map_eq_some_iff]
  constructor
  · rintro ⟨k, -, w, hw, he⟩
    cases he; exact hw
  · intro h
    exact ⟨key, Finmap.mem_keys.2 (Finmap.lookup_isSome.1 (Option.isSome_iff_exists.2 ⟨v, h⟩)),
      v, h, rfl⟩

/-- No entry is listed twice. -/
theorem nodup_entries (d : PyDict α) : d.entries.Nodup := by
  have hkeys : (sorted d.keys).Nodup := by
    rw [← Multiset.coe_nodup, coe_sorted]
    exact d.keys.nodup
  refine hkeys.filterMap fun key key' _ h h' => ?_
  obtain ⟨v, -, hv⟩ := Option.map_eq_some_iff.1 h
  obtain ⟨v', -, hv'⟩ := Option.map_eq_some_iff.1 h'
  exact congrArg Prod.fst (hv.trans hv'.symm)

/-- Under distinct keys, the entries are those that were written. -/
theorem perm_entries_ofEntries {es : List (String × α)} (hnd : (es.map (·.1)).Nodup) :
    (ofEntries es).entries.Perm es :=
  (List.perm_ext_iff_of_nodup (nodup_entries _) hnd.of_map).2 fun _ =>
    mem_entries.trans ⟨mem_of_get?_ofEntries, get?_ofEntries_of_mem hnd⟩

/-- The canonical form of a dictionary, given that of its values. -/
def toJson (f : α → Json) (d : PyDict α) : Json :=
  .dict (d.entries.map fun e => (e.1, f e.2))

end PyDict

/-! ## Reading numbers from text -/

/-- The code points of the digit zero in the scripts that have decimal digits. -/
def decimalZeros : List Nat :=
  [0x30, 0x660, 0x6f0, 0x7c0, 0x966, 0x9e6, 0xa66, 0xae6, 0xb66, 0xbe6, 0xc66, 0xce6, 0xd66, 0xde6,
   0xe50, 0xed0, 0xf20, 0x1040, 0x1090, 0x17e0, 0x1810, 0x1946, 0x19d0, 0x1a80, 0x1a90, 0x1b50,
   0x1bb0, 0x1c40, 0x1c50, 0xa620, 0xa8d0, 0xa900, 0xa9d0, 0xa9f0, 0xaa50, 0xabf0, 0xff10, 0x104a0,
   0x10d30, 0x11066, 0x110f0, 0x11136, 0x111d0, 0x112f0, 0x11450, 0x114d0, 0x11650, 0x116c0,
   0x11730, 0x118e0, 0x11950, 0x11c50, 0x11d50, 0x11da0, 0x16a60, 0x16ac0, 0x16b50, 0x1d7ce,
   0x1d7d8, 0x1d7e2, 0x1d7ec, 0x1d7f6, 0x1e140, 0x1e2f0, 0x1e950, 0x1fbf0]

/-- The value of a decimal digit in any script. -/
def decimalDigit? (c : Char) : Option Nat :=
  (decimalZeros.find? fun z => z ≤ c.toNat ∧ c.toNat < z + 10).map (c.toNat - ·)

/-- `str.isspace` on one character. -/
def isSpace (c : Char) : Bool :=
  let n := c.toNat
  (9 ≤ n ∧ n ≤ 13) ∨ (0x1c ≤ n ∧ n ≤ 0x20) ∨ n = 0x85 ∨ n = 0xa0 ∨ n = 0x1680 ∨
    (0x2000 ≤ n ∧ n ≤ 0x200a) ∨ n = 0x2028 ∨ n = 0x2029 ∨ n = 0x202f ∨ n = 0x205f ∨ n = 0x3000

/-- `text.strip()`. -/
def strip (cs : List Char) : List Char :=
  ((cs.dropWhile isSpace).reverse.dropWhile isSpace).reverse

/-- A leading sign, and the rest. -/
def takeSign : List Char → Bool × List Char
  | '-' :: cs => (true, cs)
  | '+' :: cs => (false, cs)
  | cs => (false, cs)

/-- The value of a run of decimal digits. -/
def digitsValue (ds : List Nat) : Nat := ds.foldl (fun n d => 10 * n + d) 0

/-- Digits with single underscores between them, read to the end of the text. -/
def groupedDigits? : List Char → Option (List Nat)
  | [] => none
  | [c] => (decimalDigit? c).map ([·])
  | c :: '_' :: rest => do return (← decimalDigit? c) :: (← groupedDigits? rest)
  | c :: rest => do return (← decimalDigit? c) :: (← groupedDigits? rest)

/-- What an integer of too many digits raises, where it is read or written. -/
def digitLimitError : PyError := .valueError "Exceeds the limit for integer string conversion"

/-- `int(text)`. Leading zeros count as digits, underscores do not. -/
def intOfText (text : String) : Except PyError Int :=
  let (neg, cs) := takeSign (strip text.toList)
  match groupedDigits? cs with
  | some ds =>
    if ds.length ≤ maxStrDigits then .ok (if neg then -(digitsValue ds : Int) else digitsValue ds)
    else .error digitLimitError
  | none => .error (.valueError "invalid literal for int() with base 10")

/-- `hashio.py` `digest`, of a value that may hold an integer of too many digits. -/
def digestOf (v : Json) : Except PyError String :=
  if v.writable then .ok (digest v) else .error digitLimitError

/-- A digest can be computed exactly of the values whose integers can be written. -/
theorem digestOf_ok_iff {v : Json} {hash : String} :
    digestOf v = .ok hash ↔ v.writable = true ∧ digest v = hash := by
  unfold digestOf
  split <;> simp_all

/-! ## Values -/

/-- What the program can observe of a value that is not a scalar. -/
structure PyObject where
  str : Except PyError String
  int : Except PyError Int
  json : Except PyError Json

/-- A value a caller may put in a payload. -/
inductive PyValue
  | none
  | bool (b : Bool)
  | int (i : Int)
  | str (s : String)
  | object (o : PyObject)

namespace PyValue

/-- `str(v)`. -/
def toStr : PyValue → Except PyError String
  | .none => .ok "None"
  | .bool b => .ok (if b then "True" else "False")
  | .int i => if writableInt i then .ok (toString i) else .error digitLimitError
  | .str s => .ok s
  | .object o => o.str

/-- `int(v)`. -/
def toInt : PyValue → Except PyError Int
  | .none => .error (.typeError "int() argument must be a string, a bytes-like object or a number")
  | .bool b => .ok (if b then 1 else 0)
  | .int i => .ok i
  | .str s => intOfText s
  | .object o => o.int

/-- The canonical form of a value, or what `json.dumps` raises on one that has none. -/
def toJson : PyValue → Except PyError Json
  | .none => .ok .null
  | .bool b => .ok (.bool b)
  | .int i => .ok (.int i)
  | .str s => .ok (.str s)
  | .object o => o.json

/-- The value is one of JSON. -/
def IsJson (v : PyValue) : Prop := ∃ j, v.toJson = .ok j

instance (v : PyValue) : Decidable v.IsJson :=
  match h : v.toJson with
  | .ok j => .isTrue ⟨j, h⟩
  | .error e => .isFalse fun ⟨j, hj⟩ => by rw [h] at hj; cases hj

end PyValue

/-- The canonical forms of a list of entries; the first value that has none decides the error. -/
def canonicalEntries : List (String × PyValue) → Except PyError (List (String × Json))
  | [] => .ok []
  | (key, v) :: rest => do return (key, ← v.toJson) :: (← canonicalEntries rest)

/-- A dictionary of arguments has a canonical form where each of them is a JSON value. -/
theorem canonicalEntries_ok_iff (es : List (String × PyValue)) :
    (∃ js, canonicalEntries es = .ok js) ↔ ∀ e ∈ es, e.2.IsJson := by
  induction es with
  | nil => simp [canonicalEntries]
  | cons e es ih =>
    obtain ⟨key, v⟩ := e
    rw [List.forall_mem_cons, ← ih]
    cases hv : v.toJson with
    | ok j =>
      cases hes : canonicalEntries es <;>
        simp [canonicalEntries, hv, hes, PyValue.IsJson, bind, Except.bind, pure, Except.pure]
    | error e => simp [canonicalEntries, hv, PyValue.IsJson, bind, Except.bind]

/-- The canonical form of a dictionary of values. -/
def PyDict.canonical (d : PyDict PyValue) : Except PyError Json :=
  (canonicalEntries d.entries).map .dict

/-- Every value of a dictionary is one of JSON. -/
def PyDict.IsJson (d : PyDict PyValue) : Prop :=
  ∀ key v, d.get? key = some v → v.IsJson

/-- A dictionary has a canonical form exactly when all its values have one. -/
theorem PyDict.canonicalEntries_ok_iff (d : PyDict PyValue) :
    (∃ js, canonicalEntries d.entries = .ok js) ↔ d.IsJson := by
  rw [LawFirmDigitalTwin.canonicalEntries_ok_iff]
  exact ⟨fun h key v hv => h (key, v) (mem_entries.2 hv), fun h e he => h e.1 e.2 (mem_entries.1 he)⟩

/-- `json.dumps` does not raise on a value. -/
def PyValue.Writable (v : PyValue) : Prop := ∃ j, v.toJson = .ok j ∧ j.writable = true

/-- What can be written is a JSON value. -/
theorem PyValue.Writable.isJson {v : PyValue} (h : v.Writable) : v.IsJson :=
  h.imp fun _ => And.left

/-- `json.dumps` does not raise on a dictionary: it raises on none of its values. -/
def PyDict.Writable (d : PyDict PyValue) : Prop :=
  ∀ key v, d.get? key = some v → v.Writable

/-- What can be written holds JSON values. -/
theorem PyDict.Writable.isJson {d : PyDict PyValue} (h : d.Writable) : d.IsJson :=
  fun key v hv => (h key v hv).isJson

/-- The canonical entries can be written exactly when the values can. -/
theorem writable_canonicalEntries {es : List (String × PyValue)} {js : List (String × Json)}
    (h : canonicalEntries es = .ok js) :
    (∀ j ∈ js, j.2.writable = true) ↔ ∀ e ∈ es, e.2.Writable := by
  induction es generalizing js with
  | nil => cases h; simp
  | cons e es ih =>
    obtain ⟨key, v⟩ := e
    rw [canonicalEntries] at h
    cases hv : v.toJson with
    | error e => rw [hv] at h; cases h
    | ok j =>
      cases hes : canonicalEntries es with
      | error e => rw [hv, hes] at h; cases h
      | ok js =>
        rw [hv, hes] at h
        cases h
        simp only [List.forall_mem_cons, ih hes, PyValue.Writable, hv, Except.ok.injEq,
          exists_eq_left']

/-- The canonical form of a dictionary can be written exactly when its values can. -/
theorem PyDict.writable_canonicalEntries {d : PyDict PyValue} {js : List (String × Json)}
    (h : canonicalEntries d.entries = .ok js) :
    (∀ j ∈ js, j.2.writable = true) ↔ d.Writable := by
  rw [LawFirmDigitalTwin.writable_canonicalEntries h]
  exact ⟨fun h key v hv => h (key, v) (mem_entries.2 hv), fun h e he => h e.1 e.2 (mem_entries.1 he)⟩

instance (d : PyDict PyValue) : Decidable d.Writable :=
  match h : canonicalEntries d.entries with
  | .ok js => decidable_of_iff (∀ j ∈ js, j.2.writable = true) (PyDict.writable_canonicalEntries h)
  | .error e => .isFalse fun hw => by
    obtain ⟨js, hok⟩ := d.canonicalEntries_ok_iff.2 hw.isJson
    cases h.symm.trans hok

/-- A dictionary can be written when the canonical forms of its values can. -/
theorem PyDict.writable_toJson {α : Type} {f : α → Json} {d : PyDict α} :
    (d.toJson f).writable = true ↔ ∀ key v, d.get? key = some v → (f v).writable = true := by
  rw [toJson, Json.writable_dict, List.forall_mem_map]
  exact ⟨fun h key v hv => h (key, v) (mem_entries.2 hv), fun h e he => h e.1 e.2 (mem_entries.1 he)⟩

end LawFirmDigitalTwin
