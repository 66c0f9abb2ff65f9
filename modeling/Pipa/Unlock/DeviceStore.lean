import Pipa.Unlock.Broker
import Pipa.Unlock.Registry

/- `WindowsRegistryDeviceStore` (`trusted_unlock_devices.py`): a Registry key for
   each device, with its public key and the time of pairing as values.

   `register` creates the key before it looks at it, and then reads and writes in
   four separate calls. It removes the key again where a write fails with an
   `OSError`. It does not where one of its reads fails, or where the time of pairing
   is no 64-bit number; then a half-written key remains, and `list_devices` fails
   for every device. `register_whole_iff` says when nothing is left behind.

   Any call can fail (`Faults`), except that a read of a value that is not there
   is no failure. `Close` is not shown, since its `OSError` is dropped. What `int`
   and `str` make of values of other types are parameters. -/
namespace Pipa.Unlock
open Pipa.Lib Pipa.Secure

variable {fold : PyStr → PyStr}

/-! ## Values -/

/-- What `int` and `str` make of the values that are neither numbers nor texts, and `int` of a text. -/
structure Conversions where
  intOfText : PyStr → Option Int
  intOfBytes : Bytes → Option Int
  strOfBytes : Bytes → PyStr
  strOfTexts : List PyStr → PyStr

variable (py : Conversions)

/-- `int(value)`. -/
def RegistryValue.int : RegistryValue → Option Int
  | .nothing => none
  | .number n => some n
  | .text s => py.intOfText s
  | .bytes b => py.intOfBytes b
  | .texts _ => none

/-- `str(value)`. -/
def RegistryValue.str : RegistryValue → PyStr
  | .nothing => PyStr.ofString "None"
  | .number n => PyStr.ofString (toString n)
  | .text s => s
  | .bytes b => py.strOfBytes b
  | .texts l => py.strOfTexts l

/-- A value that is not `None`. -/
def present (value : Option RegistryValue) : Option RegistryValue := value.filter (· ≠ .nothing)

/-- `public_key_from_base64`; `none` is its `ValueError`. -/
def publicKeyFromBase64 (value : PyStr) : Option (Fixed 32) :=
  match decodeBase64url value with
  | none => none
  | some rawKey => if h : rawKey.length = 32 then some ⟨rawKey, h⟩ else none

/-- `public_key_to_base64`. -/
def publicKeyToBase64 (publicKey : Fixed 32) : PyStr := encode publicKey.val

theorem publicKeyFromBase64_toBase64 (publicKey : Fixed 32) :
    publicKeyFromBase64 (publicKeyToBase64 publicKey) = some publicKey := by
  have hne : publicKey.val ≠ [] := by
    intro hnil
    have hlength := publicKey.property
    rw [hnil] at hlength
    cases hlength
  simp only [publicKeyFromBase64, publicKeyToBase64, AuthorizationVerifier.decodeBase64url_encode hne,
    publicKey.property, dif_pos]

/-! ## Listing -/

structure RegisteredDevice where
  deviceId : PyStr
  publicKey : PyStr
  createdAt : Int

/-- The device of a key, as the loop of `list_devices` reads it; `none` is its `DeviceStoreError`. -/
def device? (entry : RegistryEntry) : Option RegisteredDevice :=
  if !isDeviceId entry.name then none
  else match entry.values.publicKey, entry.values.createdAt with
    | some publicKey, some createdAt =>
      match createdAt.int py with
      | none => none
      | some created =>
        if (publicKeyFromBase64 (publicKey.str py)).isNone then none
        else some ⟨entry.name, publicKey.str py, created⟩
    | _, _ => none

/-- `sorted(devices, key=lambda item: item.device_id)`. -/
def sortDevices (devices : List RegisteredDevice) : List RegisteredDevice :=
  devices.insertionSort (fun a b => PyStr.le a.deviceId b.deviceId = true)

/-- `list_devices`, of a Registry that answers; `none` is its `DeviceStoreError`. -/
def listDevices (r : Registry fold) : Option (List RegisteredDevice) :=
  (r.entries.mapM (device? py)).map sortDevices

/-! ## Registering -/

/-- How a call of the Registry fails: with a `PermissionError`, with another `OSError`, or with an exception
that is none, such as the `AttributeError` of a handle without the method. A `TypeError` or a `ValueError` of
`SetValueEx` is handled like an `OSError`, and is an `os` here. -/
inductive Failure where
  | permission | os | other
  deriving DecidableEq

/-- Which calls of `register` fail. -/
structure Faults where
  createKey : Option Failure := none
  queryPublicKey : Option Failure := none
  queryCreatedAt : Option Failure := none
  setPublicKey : Option Failure := none
  setCreatedAt : Option Failure := none
  deleteKey : Option Failure := none

/-- What `register` raises: the `ValueError` of `validate_device_id`, a `DeviceStoreError`, a
`DeviceAlreadyRegisteredError`, or an exception it does not catch. -/
inductive RegisterError where
  | deviceId
  | store (message : String)
  | alreadyRegistered (deviceId : PyStr)
  | os
  | overflow
  | other

def administratorMessage : String := "administrator permissions are required to pair a device"

/-- What the outer handlers make of an exception. -/
def Failure.reading : Failure → RegisterError
  | .permission => .store administratorMessage
  | .os => .store "could not read trusted device registration"
  | .other => .other

/-- The handler of the two writes: the key afterwards, and what is raised. -/
def writeFailed (faults : Faults) (current : RegistryValues) : Failure → Option RegistryValues × RegisterError
  | .other => (some current, .other)
  | _ =>
    match faults.deleteKey with
    | none => (none, .store "could not persist trusted device registration")
    | some .other => (some current, .other)
    | some _ =>
      (some current,
        .store "could not persist trusted device registration; incomplete registry entry could not be removed")

/-- The values `REG_QWORD` takes. -/
def isQword (n : Int) : Bool := 0 ≤ n && n < 2 ^ 64

/-- `register` once the key is open: the key afterwards, gone where it was removed. -/
def registerOpened (faults : Faults) (deviceId publicKeyB64 : PyStr) (createdValue : Int)
    (opened : RegistryValues) : Option RegistryValues × Except RegisterError RegisteredDevice :=
  match faults.queryPublicKey with
  | some failure => (some opened, .error failure.reading)
  | none =>
    match faults.queryCreatedAt with
    | some failure => (some opened, .error failure.reading)
    | none =>
      match present opened.publicKey, present opened.createdAt with
      | some existingKey, existingCreated =>
        if existingKey ≠ .text publicKeyB64 then (some opened, .error (.alreadyRegistered deviceId))
        else match existingCreated with
          | none => (some opened, .error (.store "trusted device registration is incomplete"))
          | some existingCreated =>
            match existingCreated.int py with
            | none => (some opened, .error (.store "trusted device registration is invalid"))
            | some created => (some opened, .ok ⟨deviceId, publicKeyB64, created⟩)
      | none, some _ => (some opened, .error (.store "trusted device registration is incomplete"))
      | none, none =>
        match faults.setPublicKey with
        | some failure =>
          let r := writeFailed faults opened failure
          (r.1, .error r.2)
        | none =>
          let written := { opened with publicKey := some (.text publicKeyB64) }
          -- the value is converted before it is written
          if !isQword createdValue then (some written, .error .overflow)
          else match faults.setCreatedAt with
            | some failure =>
              let r := writeFailed faults written failure
              (r.1, .error r.2)
            | none =>
              (some { written with createdAt := some (.number createdValue.toNat) },
                .ok ⟨deviceId, publicKeyB64, createdValue⟩)

/-- `register`. `now` is `int(time.time())`. -/
def register (faults : Faults) (r : Registry fold) (deviceId : PyStr) (publicKey : Fixed 32)
    (createdAt : Option Int) (now : Int) : Registry fold × Except RegisterError RegisteredDevice :=
  if !isDeviceId deviceId then (r, .error .deviceId)
  else match faults.createKey with
    | some .permission => (r, .error (.store administratorMessage))
    | some .os => (r, .error .os)
    | some .other => (r, .error .other)
    | none =>
      let opened := ((r.find? deviceId).map RegistryEntry.values).getD {}
      let result := registerOpened py faults deviceId (publicKeyToBase64 publicKey) (createdAt.getD now) opened
      (r.put deviceId result.1, result.2)

/-! ## What is complete -/

/-- The devices that can be read. -/
def complete (r : Registry fold) : List RegisteredDevice := r.entries.filterMap (device? py)

def isHalf (entry : RegistryEntry) : Bool := (device? py entry).isNone

/-- The names of the keys that cannot. -/
def incomplete (r : Registry fold) : List PyStr := (r.entries.filter (isHalf py)).map RegistryEntry.name

theorem listDevices_eq (r : Registry fold) :
    listDevices py r = if incomplete py r = [] then some (sortDevices (complete py r)) else none := by
  unfold listDevices incomplete complete
  generalize r.entries = entries
  suffices h : entries.mapM (device? py) =
      if (entries.filter (isHalf py)).map RegistryEntry.name = [] then some (entries.filterMap (device? py))
      else none by
    rw [h]
    split
    · rfl
    · rfl
  induction entries with
  | nil => rfl
  | cons entry entries ih =>
    rw [List.mapM_cons, ih]
    cases hdevice : device? py entry with
    | none =>
      have hhalf : isHalf py entry = true := by rw [isHalf, hdevice]; rfl
      rw [List.filter_cons_of_pos hhalf, List.map_cons, if_neg (List.cons_ne_nil _ _)]
      rfl
    | some device =>
      have hhalf : ¬ isHalf py entry = true := by rw [isHalf, hdevice]; exact Bool.false_ne_true
      rw [List.filter_cons_of_neg hhalf, List.filterMap_cons_some hdevice]
      split
      · rfl
      · rfl

theorem mem_sortDevices {d : RegisteredDevice} {l : List RegisteredDevice} : d ∈ sortDevices l ↔ d ∈ l :=
  (List.perm_insertionSort _ l).mem_iff

/-- What pairing promises: where `register` raises, the devices are those there were, and where it returns, its
device is one more; no key is newly incomplete; and `list_devices` goes on working. -/
def Whole (r : Registry fold) : Registry fold × Except RegisterError RegisteredDevice → Prop
  | (r', .error _) =>
    (∀ d, d ∈ complete py r' ↔ d ∈ complete py r) ∧ (∀ name ∈ incomplete py r', name ∈ incomplete py r) ∧
      ∀ l, listDevices py r = some l → listDevices py r' = some l
  | (r', .ok registered) =>
    (∀ d, d ∈ complete py r' ↔ d ∈ complete py r ∨ d = registered) ∧
      (∀ name ∈ incomplete py r', name ∈ incomplete py r) ∧
      ∀ l, listDevices py r = some l → ∃ l', listDevices py r' = some l' ∧ ∀ d, d ∈ l' ↔ d ∈ l ∨ d = registered

/-- The promise for the one key that is opened. -/
def EntryWhole (before after : Option RegistryEntry) : Except RegisterError RegisteredDevice → Prop
  | .error _ => after.bind (device? py) = before.bind (device? py) ∧
      (after.any (isHalf py) = true → before.any (isHalf py) = true)
  | .ok registered => after.bind (device? py) = some registered ∧
      ∀ d, before.bind (device? py) = some d → d = registered

theorem device?_name {entry : RegistryEntry} {d : RegisteredDevice} (h : device? py entry = some d) :
    d.deviceId = entry.name := by
  unfold device? at h
  split at h
  · cases h
  split at h
  · split at h
    · cases h
    split at h
    · cases h
    · rw [← Option.some.inj h]
  · cases h

theorem filterMap_split (pre post : List RegistryEntry) (entry : Option RegistryEntry) :
    (pre ++ entry.toList ++ post).filterMap (device? py) =
      pre.filterMap (device? py) ++ (entry.bind (device? py)).toList ++ post.filterMap (device? py) := by
  rw [List.filterMap_append, List.filterMap_append]
  cases entry with
  | none => rfl
  | some entry =>
    cases hdevice : device? py entry with
    | none => simp [hdevice]
    | some d => simp [hdevice]

theorem incomplete_split (pre post : List RegistryEntry) (entry : Option RegistryEntry) (name : PyStr) :
    name ∈ ((pre ++ entry.toList ++ post).filter (isHalf py)).map RegistryEntry.name ↔
      name ∈ ((pre ++ post).filter (isHalf py)).map RegistryEntry.name ∨
        ∃ e ∈ entry, isHalf py e = true ∧ e.name = name := by
  cases entry with
  | none => simp
  | some entry =>
    simp only [List.mem_map, List.mem_filter, List.mem_append, Option.toList_some, List.mem_singleton,
      Option.mem_def, Option.some.injEq]
    constructor
    · rintro ⟨e, ⟨(he | rfl) | he, hhalf⟩, hname⟩
      · exact Or.inl ⟨e, ⟨Or.inl he, hhalf⟩, hname⟩
      · exact Or.inr ⟨e, rfl, hhalf, hname⟩
      · exact Or.inl ⟨e, ⟨Or.inr he, hhalf⟩, hname⟩
    · rintro (⟨e, ⟨he | he, hhalf⟩, hname⟩ | ⟨e, rfl, hhalf, hname⟩)
      · exact ⟨e, ⟨Or.inl (Or.inl he), hhalf⟩, hname⟩
      · exact ⟨e, ⟨Or.inr he, hhalf⟩, hname⟩
      · exact ⟨entry, ⟨Or.inl (Or.inr rfl), hhalf⟩, hname⟩

/-- Nothing newly incomplete: the list still works. -/
theorem listDevices_kept {r r' : Registry fold} (hincomplete : ∀ name ∈ incomplete py r', name ∈ incomplete py r)
    {l : List RegisteredDevice} (h : listDevices py r = some l) :
    l = sortDevices (complete py r) ∧ listDevices py r' = some (sortDevices (complete py r')) := by
  rw [listDevices_eq] at h
  split at h
  · rename_i hnone
    refine ⟨(Option.some.inj h).symm, ?_⟩
    rw [listDevices_eq, if_pos]
    rw [List.eq_nil_iff_forall_not_mem]
    intro name hname
    have hmem := hincomplete name hname
    rw [hnone] at hmem
    cases hmem
  · cases h

/-- The promise is about the key that is opened: the others stay as they are, under other names. -/
theorem put_whole_iff (r : Registry fold) (name : PyStr) (after : Option RegistryValues)
    {result : Except RegisterError RegisteredDevice} (hresult : ∀ d, result = .ok d → d.deviceId = name) :
    Whole py r (r.put name after, result) ↔
      EntryWhole py (r.find? name) (after.map (RegistryEntry.mk (r.spelling name))) result := by
  obtain ⟨pre, post, hsplit, hothers, hput⟩ := r.putEntries_split name after
  obtain ⟨-, -, -, -, hfound, -⟩ := r.find?_split name
  have hspelled : ∀ e ∈ after.map (RegistryEntry.mk (r.spelling name)), fold e.name = fold name := by
    intro e he
    obtain ⟨values, -, rfl⟩ := Option.mem_map.mp he
    exact r.fold_spelling name
  have hkept : ∀ e ∈ after.map (RegistryEntry.mk (r.spelling name)), ∀ b ∈ r.find? name, e.name = b.name := by
    intro e he b hb
    obtain ⟨values, -, rfl⟩ := Option.mem_map.mp he
    show r.spelling name = b.name
    rw [Registry.spelling, hb]
    rfl
  have hentries : (r.put name after).entries = r.putEntries name after := rfl
  generalize after.map (RegistryEntry.mk (r.spelling name)) = entry at hput hspelled hkept ⊢
  generalize r.find? name = before at hsplit hfound hkept ⊢
  generalize r.put name after = r' at hentries ⊢
  rw [hput] at hentries
  have hlist : complete py r = pre.filterMap (device? py) ++ (before.bind (device? py)).toList ++
      post.filterMap (device? py) := by
    rw [complete, hsplit, filterMap_split]
  have hlist' : complete py r' = pre.filterMap (device? py) ++ (entry.bind (device? py)).toList ++
      post.filterMap (device? py) := by
    rw [complete, hentries, filterMap_split]
  have hmem (o : Option RegisteredDevice) (d : RegisteredDevice) :
      d ∈ pre.filterMap (device? py) ++ o.toList ++ post.filterMap (device? py) ↔
        d ∈ (pre ++ post).filterMap (device? py) ∨ o = some d := by
    rw [List.filterMap_append]
    simp only [List.mem_append, Option.mem_toList]
    tauto
  have hapart : ∀ d ∈ (pre ++ post).filterMap (device? py), fold d.deviceId ≠ fold name := by
    intro d hd
    obtain ⟨e, he, hdevice⟩ := List.mem_filterMap.mp hd
    rw [device?_name py hdevice]
    exact hothers e he
  have hown {o : Option RegistryEntry} (ho : ∀ e ∈ o, fold e.name = fold name) {d : RegisteredDevice}
      (hd : o.bind (device? py) = some d) : fold d.deviceId = fold name := by
    obtain ⟨e, he, hdevice⟩ := Option.bind_eq_some_iff.mp hd
    rw [device?_name py hdevice]
    exact ho e he
  have hincomplete : (∀ n ∈ incomplete py r', n ∈ incomplete py r) ↔
      (entry.any (isHalf py) = true → before.any (isHalf py) = true) := by
    simp only [incomplete, hsplit, hentries, incomplete_split]
    constructor
    · intro hnames hany
      obtain ⟨e, he, hhalf⟩ : ∃ e ∈ entry, isHalf py e = true := by
        cases entry with
        | none => cases hany
        | some e => exact ⟨e, rfl, hany⟩
      obtain hother | ⟨b, hb, hbhalf, -⟩ := hnames e.name (Or.inr ⟨e, he, hhalf, rfl⟩)
      · obtain ⟨o, ho, hname⟩ := List.mem_map.mp hother
        refine absurd ?_ (hothers o (List.mem_filter.mp ho).1)
        rw [hname]
        exact hspelled e he
      · rw [hb]
        exact hbhalf
    · rintro hhalf n (hother | ⟨e, he, hehalf, rfl⟩)
      · exact Or.inl hother
      · have hany : before.any (isHalf py) = true := hhalf (by rw [he]; exact hehalf)
        cases before with
        | none => cases hany
        | some b => exact Or.inr ⟨b, rfl, hany, (hkept e he b rfl).symm⟩
  cases result with
  | error e =>
    simp only [Whole, EntryWhole, hincomplete]
    constructor
    · rintro ⟨hdevices, hhalf, -⟩
      refine ⟨?_, hhalf⟩
      ext d
      have hd := hdevices d
      rw [hlist, hlist', hmem, hmem] at hd
      constructor
      · intro hentry
        obtain hother | hbefore := hd.mp (Or.inr hentry)
        · exact absurd (hown hspelled hentry) (hapart d hother)
        · exact hbefore
      · intro hbefore
        obtain hother | hentry := hd.mpr (Or.inr hbefore)
        · exact absurd (hown hfound hbefore) (hapart d hother)
        · exact hentry
    · rintro ⟨hdevice, hhalf⟩
      have hsame : complete py r' = complete py r := by rw [hlist, hlist', hdevice]
      refine ⟨fun d => by rw [hsame], hhalf, fun l hl => ?_⟩
      obtain ⟨rfl, hl'⟩ := listDevices_kept py (hincomplete.mpr hhalf) hl
      rw [hl', hsame]
  | ok registered =>
    have hname : fold registered.deviceId = fold name := congrArg fold (hresult registered rfl)
    simp only [Whole, EntryWhole, hincomplete]
    constructor
    · rintro ⟨hdevices, -, -⟩
      have hafter : entry.bind (device? py) = some registered := by
        have hd := (hdevices registered).mpr (Or.inr rfl)
        rw [hlist', hmem] at hd
        exact hd.resolve_left fun hother => hapart registered hother hname
      refine ⟨hafter, fun d hd => ?_⟩
      have hd' := (hdevices d).mpr (Or.inl (by rw [hlist, hmem]; exact Or.inr hd))
      rw [hlist', hmem, hafter] at hd'
      obtain hother | hsame := hd'
      · exact absurd (hown hfound hd) (hapart d hother)
      · exact (Option.some.inj hsame).symm
    · rintro ⟨hafter, hbefore⟩
      have hdevices : ∀ d, d ∈ complete py r' ↔ d ∈ complete py r ∨ d = registered := by
        intro d
        rw [hlist, hlist', hmem, hmem, hafter, Option.some.injEq, eq_comm (a := registered)]
        constructor
        · rintro (hother | hd)
          · exact Or.inl (Or.inl hother)
          · exact Or.inr hd
        · rintro ((hother | hd) | hd)
          · exact Or.inl hother
          · exact Or.inr (hbefore d hd)
          · exact Or.inr hd
      have hhalf : entry.any (isHalf py) = true → before.any (isHalf py) = true := by
        intro hany
        obtain ⟨e, he, hdevice⟩ := Option.bind_eq_some_iff.mp hafter
        rw [he, Option.any_some, isHalf, hdevice] at hany
        cases hany
      refine ⟨hdevices, hhalf, fun l hl => ?_⟩
      obtain ⟨rfl, hl'⟩ := listDevices_kept py (hincomplete.mpr hhalf) hl
      refine ⟨_, hl', fun d => ?_⟩
      rw [mem_sortDevices, mem_sortDevices]
      exact hdevices d

/-! ## What `register` leaves -/

/-- `register` does not get through on a key with these values. -/
def Refuses (faults : Faults) (publicKeyB64 : PyStr) (createdValue : Int) (values : RegistryValues) : Prop :=
  faults.queryPublicKey.isSome = true ∨ faults.queryCreatedAt.isSome = true ∨
    match present values.publicKey, present values.createdAt with
    | none, none =>
      faults.setPublicKey.isSome = true ∨ isQword createdValue = false ∨ faults.setCreatedAt.isSome = true
    | some existingKey, some existingCreated =>
      existingKey ≠ .text publicKeyB64 ∨ existingCreated.int py = none
    | _, _ => True

/-- When pairing keeps its promise. A new key has to be read without a failure, and to be written or removed
again; a key that is there has to have the spelling of the id, or to be refused. -/
def Sound (faults : Faults) (r : Registry fold) (deviceId : PyStr) (publicKey : Fixed 32) (createdValue : Int) :
    Prop :=
  isDeviceId deviceId = false ∨ faults.createKey.isSome = true ∨
    match r.find? deviceId with
    | none => faults.queryPublicKey = none ∧ faults.queryCreatedAt = none ∧
        match faults.setPublicKey with
        | some failure => failure ≠ .other
        | none => isQword createdValue = true ∧ faults.setCreatedAt ≠ some .other
    | some entry =>
      entry.name = deviceId ∨ Refuses py faults (publicKeyToBase64 publicKey) createdValue entry.values

theorem present_some {value : Option RegistryValue} {v : RegistryValue} (h : present value = some v) :
    value = some v :=
  (Option.filter_eq_some_iff.mp h).1

/-- Without a time of pairing a key is no device. -/
theorem device?_unpaired {entry : RegistryEntry} (h : present entry.values.createdAt = none) :
    device? py entry = none := by
  unfold device?
  split
  · rfl
  split
  · rename_i publicKey createdAt hkey hcreated
    have hnothing : createdAt = .nothing := by
      rw [hcreated] at h
      by_contra hother
      rw [present, Option.filter_some, if_pos (by simpa using hother)] at h
      cases h
    rw [hnothing]
    rfl
  · rfl

/-- A key with this public key and a time is the device of its own name. -/
theorem device?_paired {entry : RegistryEntry} {publicKey : Fixed 32} {value : RegistryValue} {created : Int}
    (hname : isDeviceId entry.name = true)
    (hkey : entry.values.publicKey = some (.text (publicKeyToBase64 publicKey)))
    (hcreated : entry.values.createdAt = some value) (hint : value.int py = some created) :
    device? py entry = some ⟨entry.name, publicKeyToBase64 publicKey, created⟩ := by
  have hvalid : (publicKeyFromBase64 (publicKeyToBase64 publicKey)).isNone = false := by
    rw [publicKeyFromBase64_toBase64]
    rfl
  simp only [device?, hname, hkey, hcreated, hint, RegistryValue.str, hvalid, Bool.not_true, Bool.false_eq_true,
    if_false]

/-- What was written as a number is read as it. -/
theorem number_int {n : Int} (h : isQword n = true) : (RegistryValue.number n.toNat).int py = some n := by
  simp only [isQword, Bool.and_eq_true, decide_eq_true_eq] at h
  rw [RegistryValue.int, Int.toNat_of_nonneg h.1]

/-- What is returned is a device of this id. -/
theorem registerOpened_name {faults : Faults} {deviceId publicKeyB64 : PyStr} {createdValue : Int}
    {opened : RegistryValues} {d : RegisteredDevice}
    (h : (registerOpened py faults deviceId publicKeyB64 createdValue opened).2 = .ok d) :
    d.deviceId = deviceId := by
  unfold registerOpened at h
  repeat' split at h
  all_goals first
    | exact (congrArg RegisteredDevice.deviceId (Except.ok.inj h)).symm
    | cases h

section
variable {faults : Faults} {deviceId : PyStr} {publicKey : Fixed 32} {createdValue : Int}

/-- A key that was there. -/
theorem opened_whole_iff (hdelete : faults.deleteKey = none) (hid : isDeviceId deviceId = true)
    (entry : RegistryEntry) :
    EntryWhole py (some entry)
        ((registerOpened py faults deviceId (publicKeyToBase64 publicKey) createdValue entry.values).1.map
          (RegistryEntry.mk entry.name))
        (registerOpened py faults deviceId (publicKeyToBase64 publicKey) createdValue entry.values).2 ↔
      entry.name = deviceId ∨ Refuses py faults (publicKeyToBase64 publicKey) createdValue entry.values := by
  have hsame (e : RegisterError) :
      EntryWhole py (some entry) ((some entry.values).map (RegistryEntry.mk entry.name)) (.error e) := ⟨rfl, id⟩
  have hunpaired (hnone : device? py entry = none) (after : Option RegistryValues)
      (hafter : ∀ values ∈ after, present values.createdAt = none) (e : RegisterError) :
      EntryWhole py (some entry) (after.map (RegistryEntry.mk entry.name)) (.error e) := by
    refine ⟨?_, fun _ => by rw [Option.any_some, isHalf, hnone]; rfl⟩
    rw [Option.bind_some, hnone]
    cases after with
    | none => rfl
    | some values => exact device?_unpaired py (hafter values rfl)
  have hreturned {values : RegistryValues} {registered : RegisteredDevice}
      (hregistered : registered.deviceId = deviceId) (hname : entry.name ≠ deviceId) :
      ¬ EntryWhole py (some entry) ((some values).map (RegistryEntry.mk entry.name)) (.ok registered) := by
    intro hwhole
    have hspelled := device?_name py hwhole.1
    exact hname (hspelled.symm.trans hregistered)
  unfold registerOpened Refuses
  cases hqueryKey : faults.queryPublicKey with
  | some failure => exact iff_of_true (hsame _) (Or.inr (Or.inl rfl))
  | none =>
  cases hqueryCreated : faults.queryCreatedAt with
  | some failure => exact iff_of_true (hsame _) (Or.inr (Or.inr (Or.inl rfl)))
  | none =>
  cases hkey : present entry.values.publicKey with
  | none =>
    cases hcreated : present entry.values.createdAt with
    | some existingCreated => exact iff_of_true (hsame _) (by simp)
    | none =>
    have hnone := device?_unpaired py hcreated
    cases hsetKey : faults.setPublicKey with
    | some failure =>
      cases failure with
      | permission =>
        exact iff_of_true (by simpa [writeFailed, hdelete] using hunpaired hnone none nofun _) (by simp)
      | os => exact iff_of_true (by simpa [writeFailed, hdelete] using hunpaired hnone none nofun _) (by simp)
      | other => exact iff_of_true (hsame _) (by simp)
    | none =>
    have hkept : ∀ values ∈ some { entry.values with publicKey := some (.text (publicKeyToBase64 publicKey)) },
        present values.createdAt = none := by
      intro values hvalues
      obtain rfl := Option.some.inj hvalues
      exact hcreated
    cases hqword : isQword createdValue with
    | false => exact iff_of_true (hunpaired hnone _ hkept _) (by simp)
    | true =>
    cases hsetCreated : faults.setCreatedAt with
    | some failure =>
      cases failure with
      | permission =>
        exact iff_of_true (by simpa [writeFailed, hdelete] using hunpaired hnone none nofun _) (by simp)
      | os => exact iff_of_true (by simpa [writeFailed, hdelete] using hunpaired hnone none nofun _) (by simp)
      | other => exact iff_of_true (hunpaired hnone _ hkept _) (by simp)
    | none =>
      by_cases hname : entry.name = deviceId
      · refine iff_of_true ⟨?_, ?_⟩ (Or.inl hname)
        · have hwritten : device? py ⟨entry.name, ⟨some (.text (publicKeyToBase64 publicKey)),
              some (.number createdValue.toNat)⟩⟩ = some ⟨entry.name, publicKeyToBase64 publicKey, createdValue⟩ :=
            device?_paired py (by rw [hname]; exact hid) rfl rfl (number_int py hqword)
          rw [hname] at hwritten
          simpa [hname] using hwritten
        · intro d hd
          rw [Option.bind_some, hnone] at hd
          cases hd
      · exact iff_of_false (hreturned rfl hname) (by simp [hname])
  | some existingKey =>
    by_cases hbound : existingKey = .text (publicKeyToBase64 publicKey)
    · subst hbound
      cases hcreated : present entry.values.createdAt with
      | none => exact iff_of_true (by simpa using hsame _) (by simp)
      | some existingCreated =>
        cases hint : existingCreated.int py with
        | none => exact iff_of_true (by simpa [hint] using hsame _) (by simp [hint])
        | some created =>
          by_cases hname : entry.name = deviceId
          · refine iff_of_true ?_ (Or.inl hname)
            have hdevice := device?_paired py (by rw [hname]; exact hid) (present_some hkey) (present_some hcreated)
              hint
            rw [hname] at hdevice
            simp only [ne_eq, not_true_eq_false, if_false, hint]
            refine ⟨hdevice, fun d hd => ?_⟩
            rw [Option.bind_some, hdevice] at hd
            exact (Option.some.inj hd).symm
          · refine iff_of_false ?_ (by simp [hname, hint])
            simpa [hint] using hreturned rfl hname
    · cases hcreated : present entry.values.createdAt with
      | none => exact iff_of_true (by simpa [hbound] using hsame _) (by simp)
      | some existingCreated => exact iff_of_true (by simpa [hbound] using hsame _) (by simp [hbound])

/-- A new key. -/
theorem created_whole_iff (hdelete : faults.deleteKey = none) (hid : isDeviceId deviceId = true) :
    EntryWhole py none
        ((registerOpened py faults deviceId (publicKeyToBase64 publicKey) createdValue {}).1.map
          (RegistryEntry.mk deviceId))
        (registerOpened py faults deviceId (publicKeyToBase64 publicKey) createdValue {}).2 ↔
      faults.queryPublicKey = none ∧ faults.queryCreatedAt = none ∧
        match faults.setPublicKey with
        | some failure => failure ≠ .other
        | none => isQword createdValue = true ∧ faults.setCreatedAt ≠ some .other := by
  have hempty : present ({} : RegistryValues).createdAt = none := rfl
  have hhalf {values : RegistryValues} (h : present values.createdAt = none) (e : RegisterError) :
      ¬ EntryWhole py none ((some values).map (RegistryEntry.mk deviceId)) (.error e) := by
    intro hwhole
    have hany : (Option.any (isHalf py) (some (RegistryEntry.mk deviceId values))) = true := by
      rw [Option.any_some, isHalf, device?_unpaired py h]
      rfl
    cases hwhole.2 hany
  have hgone (e : RegisterError) : EntryWhole py none (Option.map (RegistryEntry.mk deviceId) none) (.error e) :=
    ⟨rfl, id⟩
  unfold registerOpened
  cases hqueryKey : faults.queryPublicKey with
  | some failure => exact iff_of_false (hhalf hempty _) (by simp)
  | none =>
  cases hqueryCreated : faults.queryCreatedAt with
  | some failure => exact iff_of_false (hhalf hempty _) (by simp)
  | none =>
  cases hsetKey : faults.setPublicKey with
  | some failure =>
    cases failure with
    | permission => exact iff_of_true (by simpa [present, writeFailed, hdelete] using hgone _) (by simp)
    | os => exact iff_of_true (by simpa [present, writeFailed, hdelete] using hgone _) (by simp)
    | other => exact iff_of_false (by simpa [present, writeFailed] using hhalf hempty _) (by simp)
  | none =>
  cases hqword : isQword createdValue with
  | false => exact iff_of_false (by simpa [present] using hhalf rfl _) (by simp)
  | true =>
  cases hsetCreated : faults.setCreatedAt with
  | some failure =>
    cases failure with
    | permission => exact iff_of_true (by simpa [present, writeFailed, hdelete] using hgone _) (by simp)
    | os => exact iff_of_true (by simpa [present, writeFailed, hdelete] using hgone _) (by simp)
    | other => exact iff_of_false (by simpa [present, writeFailed] using hhalf rfl _) (by simp)
  | none =>
    refine iff_of_true ⟨?_, fun d hd => by cases hd⟩ (by simp)
    exact device?_paired py hid rfl rfl (number_int py hqword)

end

/-- Pairing leaves nothing half-written, and adds the device it returns, exactly where its condition holds. -/
theorem register_whole_iff (faults : Faults) (hdelete : faults.deleteKey = none) (r : Registry fold)
    (deviceId : PyStr) (publicKey : Fixed 32) (createdAt : Option Int) (now : Int) :
    Whole py r (register py faults r deviceId publicKey createdAt now) ↔
      Sound py faults r deviceId publicKey (createdAt.getD now) := by
  have hunchanged (e : RegisterError) : Whole py r (r, .error e) := ⟨fun _ => Iff.rfl, fun _ h => h, fun _ h => h⟩
  unfold register Sound
  cases hid : isDeviceId deviceId with
  | false => exact iff_of_true (hunchanged _) (Or.inl rfl)
  | true =>
  cases hcreate : faults.createKey with
  | some failure =>
    refine iff_of_true ?_ (Or.inr (Or.inl rfl))
    cases failure with
    | permission => exact hunchanged _
    | os => exact hunchanged _
    | other => exact hunchanged _
  | none =>
  have hnamed (opened : RegistryValues) (d : RegisteredDevice)
      (h : (registerOpened py faults deviceId (publicKeyToBase64 publicKey) (createdAt.getD now) opened).2 =
        .ok d) : d.deviceId = deviceId := registerOpened_name py h
  simp only [Bool.not_true, Bool.false_eq_true, if_false, Option.isSome_none, reduceCtorEq, false_or]
  rw [put_whole_iff py r deviceId _ (hnamed _)]
  unfold Registry.spelling
  cases hfind : r.find? deviceId with
  | none => exact created_whole_iff py hdelete hid
  | some entry => exact opened_whole_iff py hdelete hid entry

/-- Names that differ in the case of their letters. -/
def foldCase (name : PyStr) : PyStr :=
  name.map (fun c => if 0x41 ≤ c.val ∧ c.val ≤ 0x5A then CodePoint.ofChar (Char.ofNat (c.val + 32)) else c)

/-- A Registry without a device. -/
def emptyRegistry : Registry foldCase := ⟨none, List.nodup_nil⟩

/-- Values of other types are refused. -/
def plainConversions : Conversions := ⟨fun _ => none, fun _ => none, fun _ => [], fun _ => []⟩

theorem register_whole_iff_phone :
    Whole plainConversions emptyRegistry (register plainConversions { setCreatedAt := some .os } emptyRegistry
      (PyStr.ofString "phone-main") (PipaSecureSession.zeros 32) none 1000) :=
  (register_whole_iff plainConversions { setCreatedAt := some .os } rfl emptyRegistry (PyStr.ofString "phone-main")
    (PipaSecureSession.zeros 32) none 1000).mpr (Or.inr (Or.inr ⟨rfl, rfl, rfl, nofun⟩))

/-- A read that fails on a new key leaves the key empty, and `list_devices` fails from then on. -/
theorem unread_key_left_empty :
    listDevices plainConversions emptyRegistry = some [] ∧
    ¬ Whole plainConversions emptyRegistry (register plainConversions { queryPublicKey := some .permission }
      emptyRegistry (PyStr.ofString "phone-main") (PipaSecureSession.zeros 32) none 1000) := by
  refine ⟨rfl, fun hwhole => ?_⟩
  have hlist := hwhole.2.2 [] rfl
  have hnone : listDevices plainConversions (register plainConversions { queryPublicKey := some .permission }
      emptyRegistry (PyStr.ofString "phone-main") (PipaSecureSession.zeros 32) none 1000).1 = none := rfl
  cases hnone.symm.trans hlist

end Pipa.Unlock
