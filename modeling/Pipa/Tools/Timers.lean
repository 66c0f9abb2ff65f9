import Pipa.Lib.Machine
import Pipa.Tools.AgentCatalog

/- The timers of the agent (`TimerManager`, `timers.py`) over whole runs.

   What is done under the lock is one step, so a run is any order of creations,
   cancellations and fires; `_fire` may come at any time and for any identifier, after a
   cancellation too. A record is told apart by its `Timer` object, for the identifier is
   drawn at random and not looked up before it is used.

   What is proved:
     1. `Follows`: between any two moments a record keeps all but its status, and only a
        pending one may change.
     2. `Within`: no more than `MAX_ACTIVE_TIMERS` are pending, and there is one record
        more than `MAX_TIMER_RECORDS` at most. The store is pruned before the new record
        comes in, so that the one more does occur (`timer_records_exceeded`). -/
namespace Pipa.Tools.Timers
open Pipa.Lib Pipa.Core

def maxTimerSeconds : Int := 7 * 24 * 60 * 60
def maxActiveTimers : Nat := 128
def maxTimerRecords : Nat := 256

inductive Status where
  | pending | fired | cancelled
  deriving DecidableEq

def Status.name : Status → String
  | .pending => "pending"
  | .fired => "fired"
  | .cancelled => "cancelled"

/-- `timer` is the number of the `Timer` object, in the order they were made. -/
structure TimerRecord where
  timerId : PyStr
  label : PyStr
  createdAt : Int
  dueAt : Int
  status : Status
  timer : Nat

def TimerRecord.asDict (record : TimerRecord) : Object :=
  [("timer_id", .str record.timerId), ("label", .str record.label), ("created_at", .int record.createdAt),
    ("due_at", .int record.dueAt), ("status", .str (PyStr.ofString record.status.name))]

inductive TimerError where
  | valueError (message : String)
  /-- `TimerNotFoundError`. -/
  | notFound (message : String)
  | keyError

/-- The store, and how many `Timer` objects were made. -/
structure TimerManager where
  timers : Dict PyStr TimerRecord
  made : Nat

/-! ## The code -/

def TimerRecord.isPending (record : TimerRecord) : Bool := record.status = .pending

/-- `record.status in {"fired", "cancelled"}`. -/
def TimerRecord.isCompleted (record : TimerRecord) : Bool := record.status = .fired || record.status = .cancelled

def activeCount (timers : Dict PyStr TimerRecord) : Nat := timers.values.countP TimerRecord.isPending

def completed (timers : Dict PyStr TimerRecord) : List PyStr :=
  (timers.entries.filter (fun e => e.2.isCompleted)).map Prod.fst

/-- `_prune_completed_locked`. -/
def pruneCompletedLocked (timers : Dict PyStr TimerRecord) : Option (Dict PyStr TimerRecord) :=
  if timers.size ≤ maxTimerRecords then some timers
  else timers.delAll ((completed timers).take (timers.size - maxTimerRecords))

/-- The checks of `create`. -/
def checkRequest (seconds label : Value) : Except TimerError (Int × PyStr) :=
  match seconds with
  | .int seconds =>
    if seconds < 1 ∨ seconds > maxTimerSeconds then .error (.valueError "seconds debe estar entre 1 y 604800.")
    else
      match label with
      | .str label =>
        if label.isBlank ∨ label.length > 120 then
          .error (.valueError "label debe tener entre 1 y 120 caracteres.")
        else .ok (seconds, label.strip)
      | _ => .error (.valueError "label debe tener entre 1 y 120 caracteres.")
  | _ => .error (.valueError "seconds debe ser un entero.")

namespace TimerManager
variable (m : TimerManager)

/-- `create`; `timerId` is what `token_urlsafe` has drawn, and `now` the time. -/
def create (seconds label : Value) (timerId : PyStr) (now : Int) : TimerManager × Except TimerError Value :=
  match checkRequest seconds label with
  | .error e => (m, .error e)
  | .ok (seconds, label) =>
    let record := ⟨timerId, label, now, now + seconds, .pending, m.made⟩
    match pruneCompletedLocked m.timers with
    | none => (⟨m.timers, m.made + 1⟩, .error .keyError)
    | some timers =>
      if activeCount timers ≥ maxActiveTimers then
        (⟨timers, m.made + 1⟩, .error (.valueError "No puede haber más de 128 temporizadores activos."))
      else (⟨timers.set timerId record, m.made + 1⟩, .ok (.dict record.asDict))

/-- `cancel`. -/
def cancel (timerId : Value) : TimerManager × Except TimerError Value :=
  match timerId with
  | .str timerId =>
    if !validateTimerId timerId then
      (m, .error (.valueError "El identificador del temporizador no es válido."))
    else
      match m.timers.get? timerId with
      | none => (m, .error (.notFound "No existe ese temporizador."))
      | some record =>
        if record.status = .pending then
          let record := { record with status := .cancelled }
          ({ m with timers := m.timers.set timerId record }, .ok (.dict record.asDict))
        else (m, .ok (.dict record.asDict))
  | _ => (m, .error (.valueError "El identificador del temporizador no es válido."))

/-- `_fire`. -/
def fire (timerId : PyStr) : TimerManager :=
  match m.timers.get? timerId with
  | none => m
  | some record =>
    if record.status = .pending then
      { m with timers := m.timers.set timerId { record with status := .fired } }
    else m

/-- `list`. -/
def list : List Value := m.timers.values.map (fun record => .dict record.asDict)

end TimerManager

inductive Op where
  | create (seconds label : Value) (timerId : PyStr) (now : Int)
  | cancel (timerId : Value)
  | fire (timerId : PyStr)
  | list

/-- The manager as a machine. -/
def machine : Machine TimerManager Op (Except TimerError Value) where
  init := ⟨Dict.empty, 0⟩
  step m
    | .create seconds label timerId now => m.create seconds label timerId now
    | .cancel timerId => m.cancel timerId
    | .fire timerId => (m.fire timerId, .ok .null)
    | .list => (m, .ok (.list m.list))

/-! ## Pruning -/

theorem completed_length (timers : Dict PyStr TimerRecord) :
    (completed timers).length + activeCount timers = timers.size := by
  have hactive : activeCount timers = timers.entries.countP (fun e => !e.2.isCompleted) := by
    rw [activeCount, Dict.values, List.countP_map]
    refine List.countP_congr fun e _ => ?_
    cases h : e.2.status <;> simp [TimerRecord.isPending, TimerRecord.isCompleted, h]
  rw [completed, List.length_map, ← List.countP_eq_length_filter, hactive, Dict.size]
  simpa using (timers.entries.length_eq_countP_add_countP (fun e => e.2.isCompleted)).symm

/-- Pruning takes out completed records only, as many as there are too many, and raises nothing. -/
theorem prune_eq (timers : Dict PyStr TimerRecord) : ∃ gone : List PyStr,
    pruneCompletedLocked timers = some (timers.filter (fun k _ => k ∉ gone)) ∧
      (∀ k ∈ gone, ∃ record, timers.get? k = some record ∧ record.isCompleted = true) ∧
      gone.length = min (timers.size - maxTimerRecords) (completed timers).length := by
  unfold pruneCompletedLocked
  have hcompleted : ∀ k ∈ completed timers, ∃ record, timers.get? k = some record ∧ record.isCompleted = true := by
    intro k hk
    obtain ⟨e, he, rfl⟩ := List.mem_map.mp hk
    obtain ⟨he, hdone⟩ := List.mem_filter.mp he
    exact ⟨e.2, Dict.get?_eq_some.mpr he, hdone⟩
  split
  · rename_i hsmall
    refine ⟨[], congrArg some (Dict.ext_entries ?_), List.forall_mem_nil _, ?_⟩
    · simp [Dict.filter]
    · rw [Nat.sub_eq_zero_of_le hsmall, Nat.zero_min]
      rfl
  · obtain ⟨excess, hexcess⟩ : ∃ excess, excess = timers.size - maxTimerRecords := ⟨_, rfl⟩
    rw [← hexcess]
    have hkeys : ∀ k ∈ (completed timers).take excess, (timers.get? k).isSome = true := by
      intro k hk
      obtain ⟨record, hget, -⟩ := hcompleted k (List.mem_of_mem_take hk)
      rw [hget]
      rfl
    have hnodup : ((completed timers).take excess).Nodup :=
      ((timers.filter (fun _ record => record.isCompleted)).nodup).sublist (List.take_sublist _ _)
    refine ⟨(completed timers).take excess, ?_, ?_, List.length_take⟩
    · rw [Dict.delAll_eq hkeys hnodup]
      refine congrArg (fun p => some (timers.filter p)) ?_
      funext k _
      exact decide_eq_decide.mpr Iff.rfl
    · exact fun k hk => hcompleted k (List.mem_of_mem_take hk)

/-- What is left of a store: what was there, with what was pending. -/
structure Pruned (timers pruned : Dict PyStr TimerRecord) : Prop where
  kept : ∀ timerId record, pruned.get? timerId = some record → timers.get? timerId = some record
  pending : ∀ timerId record, timers.get? timerId = some record → record.status = .pending →
    pruned.get? timerId = some record
  active : activeCount pruned = activeCount timers
  size : activeCount timers ≤ maxActiveTimers → pruned.size ≤ maxTimerRecords
  same : timers.size ≤ maxTimerRecords → pruned = timers

theorem pruned_of_prune {timers pruned : Dict PyStr TimerRecord} (h : pruneCompletedLocked timers = some pruned) :
    Pruned timers pruned := by
  obtain ⟨gone, heq, hgone, hlength⟩ := prune_eq timers
  obtain rfl := Option.some.inj (h.symm.trans heq)
  have hstays {timerId : PyStr} {record : TimerRecord} (hget : timers.get? timerId = some record)
      (hpending : record.status = .pending) : timerId ∉ gone := by
    intro hmem
    obtain ⟨record', hget', hdone⟩ := hgone timerId hmem
    obtain rfl := Option.some.inj (hget.symm.trans hget')
    simp [TimerRecord.isCompleted, hpending] at hdone
  refine ⟨?_, ?_, ?_, ?_, ?_⟩
  · intro timerId record hget
    exact (Dict.get?_filter_some.mp hget).1
  · intro timerId record hget hpending
    exact Dict.get?_filter_some.mpr ⟨hget, decide_eq_true (hstays hget hpending)⟩
  · rw [activeCount, activeCount, Dict.values, Dict.values, List.countP_map, List.countP_map, Dict.filter,
      List.countP_filter]
    refine List.countP_congr fun e he => ?_
    have hin : e.2.isPending = true → e.1 ∉ gone :=
      fun h => hstays (Dict.get?_eq_some.mpr he) (of_decide_eq_true h)
    simpa using hin
  · intro hactive
    have hcount := completed_length timers
    unfold pruneCompletedLocked at h
    split at h
    · rename_i hsmall
      rw [← Option.some.inj h]
      exact hsmall
    · have hsize := Dict.size_delAll h
      rw [List.length_take] at hsize
      simp only [maxActiveTimers, maxTimerRecords] at hactive hsize ⊢
      omega
  · intro hsmall
    rw [pruneCompletedLocked, if_pos hsmall] at h
    exact (Option.some.inj h).symm

/-! ## One step -/

/-- The identifier under which an operation adds a record. -/
def Op.draws (m : TimerManager) : Op → Option PyStr
  | .create seconds label timerId _ =>
    if (checkRequest seconds label).isOk ∧ activeCount m.timers < maxActiveTimers then some timerId else none
  | _ => none

/-- What a step may do to the store. -/
inductive Stepped (m : TimerManager) (op : Op) : TimerManager → Prop where
  | kept : Stepped m op m
  /-- A creation refused for the number of active timers. -/
  | pruned (timers : Dict PyStr TimerRecord) (h : Pruned m.timers timers) : Stepped m op ⟨timers, m.made + 1⟩
  | created (timers : Dict PyStr TimerRecord) (h : Pruned m.timers timers) (record : TimerRecord)
      (hdraws : op.draws m = some record.timerId) (hactive : activeCount m.timers < maxActiveTimers)
      (hpending : record.status = .pending) (htimer : record.timer = m.made) :
      Stepped m op ⟨timers.set record.timerId record, m.made + 1⟩
  | settled (timerId : PyStr) (record : TimerRecord) (status : Status) (h : m.timers.get? timerId = some record)
      (hpending : record.status = .pending) (hstatus : status ≠ .pending) :
      Stepped m op ⟨m.timers.set timerId { record with status := status }, m.made⟩

theorem create_stepped (m : TimerManager) (seconds label : Value) (timerId : PyStr) (now : Int) :
    Stepped m (.create seconds label timerId now) (m.create seconds label timerId now).1 := by
  unfold TimerManager.create
  cases hrequest : checkRequest seconds label with
  | error e => exact .kept
  | ok request =>
    obtain ⟨gone, hprune, -⟩ := prune_eq m.timers
    have hpruned := pruned_of_prune hprune
    simp only [hprune]
    split
    · exact .pruned _ hpruned
    · rename_i hactive
      rw [hpruned.active] at hactive
      have hlt := Nat.lt_of_not_le hactive
      refine .created _ hpruned ⟨timerId, request.2, now, now + request.1, .pending, m.made⟩ ?_ hlt rfl rfl
      simp [Op.draws, hrequest, Except.isOk, Except.toBool, hlt]

theorem cancel_stepped (m : TimerManager) (timerId : Value) :
    Stepped m (.cancel timerId) (m.cancel timerId).1 := by
  unfold TimerManager.cancel
  split
  · split
    · exact .kept
    split
    · exact .kept
    · rename_i record hget
      split
      · rename_i hpending
        exact .settled _ record .cancelled hget hpending (by decide)
      · exact .kept
  · exact .kept

theorem fire_stepped (m : TimerManager) (timerId : PyStr) : Stepped m (.fire timerId) (m.fire timerId) := by
  unfold TimerManager.fire
  split
  · exact .kept
  · rename_i record hget
    split
    · rename_i hpending
      exact .settled _ record .fired hget hpending nofun
    · exact .kept

theorem step_stepped (m : TimerManager) (op : Op) : Stepped m op (machine.step m op).1 := by
  cases op with
  | create seconds label timerId now => exact create_stepped m seconds label timerId now
  | cancel timerId => exact cancel_stepped m timerId
  | fire timerId => exact fire_stepped m timerId
  | list => exact .kept

/-- Where an identifier is drawn, a pending record has it then, with a `Timer` of its own. -/
theorem draws_created {m : TimerManager} {op : Op} {timerId : PyStr} (h : op.draws m = some timerId) :
    ∃ timers record, Pruned m.timers timers ∧ record.timer = m.made ∧
      (machine.step m op).1 = ⟨timers.set timerId record, m.made + 1⟩ := by
  cases op with
  | create seconds label drawn now =>
    simp only [Op.draws] at h
    split at h
    · rename_i haccepted
      obtain ⟨hok, hactive⟩ := haccepted
      obtain rfl := Option.some.inj h
      obtain ⟨gone, hprune, -⟩ := prune_eq m.timers
      have hpruned := pruned_of_prune hprune
      cases hrequest : checkRequest seconds label with
      | error e =>
        rw [hrequest] at hok
        cases hok
      | ok request =>
        refine ⟨_, ⟨drawn, request.2, now, now + request.1, .pending, m.made⟩, hpruned, rfl, ?_⟩
        rw [← hpruned.active] at hactive
        simp only [machine, TimerManager.create, hrequest, hprune, if_neg (Nat.not_le_of_lt hactive)]
    · cases h
  | cancel _ => cases h
  | fire _ => cases h
  | list => cases h

/-! ## Bounds -/

/-- The bounds of the store. -/
structure Within (records : Nat) (m : TimerManager) : Prop where
  active : activeCount m.timers ≤ maxActiveTimers
  size : m.timers.size ≤ records

theorem activeCount_set_le (timers : Dict PyStr TimerRecord) (timerId : PyStr) (record : TimerRecord) :
    activeCount (timers.set timerId record) ≤ activeCount timers + 1 := by
  have herase : (timers.erase timerId).values.countP TimerRecord.isPending ≤ activeCount timers :=
    Dict.countP_values_erase_le _
  rw [activeCount, Dict.countP_values_set]
  split <;> omega

theorem activeCount_settled {timers : Dict PyStr TimerRecord} {timerId : PyStr} {record : TimerRecord}
    (hstatus : record.status ≠ .pending) : activeCount (timers.set timerId record) ≤ activeCount timers := by
  have hnot : record.isPending = false := decide_eq_false hstatus
  rw [activeCount, Dict.countP_values_set, hnot]
  exact Dict.countP_values_erase_le _

theorem step_active {m : TimerManager} {op : Op} (h : activeCount m.timers ≤ maxActiveTimers) :
    activeCount (machine.step m op).1.timers ≤ maxActiveTimers := by
  have hstepped := step_stepped m op
  generalize (machine.step m op).1 = m' at hstepped ⊢
  cases hstepped with
  | kept => exact h
  | pruned timers hpruned =>
    rw [hpruned.active]
    exact h
  | created timers hpruned record _ hactive _ _ =>
    calc activeCount (timers.set record.timerId record)
        ≤ activeCount timers + 1 := activeCount_set_le _ _ _
      _ = activeCount m.timers + 1 := by rw [hpruned.active]
      _ ≤ maxActiveTimers := hactive
  | settled timerId record status _ _ hstatus => exact Nat.le_trans (activeCount_settled hstatus) h

/-- One record more than there are to be, for the store is pruned before the new one comes in. -/
theorem step_within {m : TimerManager} {op : Op} (h : Within (maxTimerRecords + 1) m) :
    Within (maxTimerRecords + 1) (machine.step m op).1 := by
  refine ⟨step_active h.active, ?_⟩
  have hstepped := step_stepped m op
  generalize (machine.step m op).1 = m' at hstepped ⊢
  cases hstepped with
  | kept => exact h.size
  | pruned timers hpruned => exact Nat.le_succ_of_le (hpruned.size h.active)
  | created timers hpruned record _ _ _ _ =>
    exact Nat.le_trans (Dict.size_set_le _ _ _) (Nat.succ_le_succ (hpruned.size h.active))
  | settled timerId record status hget _ _ =>
    show (m.timers.set timerId _).size ≤ _
    rw [Dict.size_set_mem hget]
    exact h.size

/-! ## Records over a run -/

/-- The records of `m'` are new since `m`, or were there and have kept all but a pending status. -/
structure Follows (m m' : TimerManager) : Prop where
  made : m.made ≤ m'.made
  records : ∀ timerId later, m'.timers.get? timerId = some later → m.made ≤ later.timer ∨
    ∃ record, m.timers.get? timerId = some record ∧ later = { record with status := later.status } ∧
      (later.status = record.status ∨ record.status = .pending)

theorem Follows.refl (m : TimerManager) : Follows m m :=
  ⟨Nat.le_refl _, fun _ later h => Or.inr ⟨later, h, rfl, Or.inl rfl⟩⟩

theorem Follows.trans {m m' m'' : TimerManager} (h : Follows m m') (h' : Follows m' m'') : Follows m m'' := by
  refine ⟨Nat.le_trans h.made h'.made, fun timerId last hlast => ?_⟩
  obtain hnew | ⟨later, hlater, hsame, hstatus⟩ := h'.records timerId last hlast
  · exact Or.inl (Nat.le_trans h.made hnew)
  have htimer : last.timer = later.timer := by rw [hsame]
  obtain hnew | ⟨record, hrecord, hsame', hstatus'⟩ := h.records timerId later hlater
  · exact Or.inl (htimer ▸ hnew)
  · refine Or.inr ⟨record, hrecord, ?_, ?_⟩
    · rw [hsame, hsame']
    · obtain hstatus' | hpending := hstatus'
      · rwa [hstatus'] at hstatus
      · exact Or.inr hpending

theorem step_follows (m : TimerManager) (op : Op) : Follows m (machine.step m op).1 := by
  have hold {timers : Dict PyStr TimerRecord} (hpruned : Pruned m.timers timers) {timerId : PyStr}
      {later : TimerRecord} (h : timers.get? timerId = some later) :
      ∃ record, m.timers.get? timerId = some record ∧ later = { record with status := later.status } ∧
        (later.status = record.status ∨ record.status = .pending) :=
    ⟨later, hpruned.kept timerId later h, rfl, Or.inl rfl⟩
  have hstepped := step_stepped m op
  generalize (machine.step m op).1 = m' at hstepped ⊢
  cases hstepped with
  | kept => exact Follows.refl m
  | pruned timers hpruned => exact ⟨Nat.le_succ _, fun timerId later h => Or.inr (hold hpruned h)⟩
  | created timers hpruned record _ _ _ htimer =>
    refine ⟨Nat.le_succ _, fun timerId later h => ?_⟩
    obtain ⟨-, rfl⟩ | ⟨-, h⟩ := Dict.get?_set_some.mp h
    · exact Or.inl (Nat.le_of_eq htimer.symm)
    · exact Or.inr (hold hpruned h)
  | settled timerId record status hget hpending _ =>
    refine ⟨Nat.le_refl _, fun timerId' later h => Or.inr ?_⟩
    obtain ⟨rfl, rfl⟩ | ⟨-, h⟩ := Dict.get?_set_some.mp h
    · exact ⟨record, hget, rfl, Or.inr hpending⟩
    · exact ⟨later, h, rfl, Or.inl rfl⟩

/-- The records have a `Timer` each. -/
structure Numbered (m : TimerManager) : Prop where
  made : ∀ timerId record, m.timers.get? timerId = some record → record.timer < m.made
  distinct : ∀ timerId record timerId' record', m.timers.get? timerId = some record →
    m.timers.get? timerId' = some record' → record.timer = record'.timer → timerId = timerId'

/-- Fewer records, or the same with other statuses, are numbered as they were. -/
theorem Numbered.of_old {m m' : TimerManager} (h : Numbered m) (hmade : m.made ≤ m'.made)
    (hold : ∀ timerId later, m'.timers.get? timerId = some later →
      ∃ record, m.timers.get? timerId = some record ∧ later.timer = record.timer) : Numbered m' := by
  refine ⟨?_, ?_⟩
  · intro timerId later hlater
    obtain ⟨record, hrecord, htimer⟩ := hold timerId later hlater
    rw [htimer]
    exact Nat.lt_of_lt_of_le (h.made timerId record hrecord) hmade
  · intro timerId later timerId' later' hlater hlater' hsame
    obtain ⟨record, hrecord, htimer⟩ := hold timerId later hlater
    obtain ⟨record', hrecord', htimer'⟩ := hold timerId' later' hlater'
    exact h.distinct timerId record timerId' record' hrecord hrecord' (by rw [← htimer, hsame, htimer'])

theorem step_numbered {m : TimerManager} {op : Op} (h : Numbered m) : Numbered (machine.step m op).1 := by
  have hstepped := step_stepped m op
  generalize (machine.step m op).1 = m' at hstepped ⊢
  cases hstepped with
  | kept => exact h
  | pruned timers hpruned =>
    exact h.of_old (Nat.le_succ _) fun timerId later hlater => ⟨later, hpruned.kept timerId later hlater, rfl⟩
  | created timers hpruned record _ _ _ htimer =>
    have hold {timerId : PyStr} {later : TimerRecord} (hlater : timers.get? timerId = some later) :
        later.timer < m.made := h.made timerId later (hpruned.kept timerId later hlater)
    refine ⟨?_, ?_⟩
    · intro timerId later hlater
      obtain ⟨-, rfl⟩ | ⟨-, hlater⟩ := Dict.get?_set_some.mp hlater
      · exact Nat.lt_succ_of_le (Nat.le_of_eq htimer)
      · exact Nat.lt_succ_of_lt (hold hlater)
    · intro timerId later timerId' later' hlater hlater' hsame
      obtain ⟨hnew, rfl⟩ | ⟨-, hthere⟩ := Dict.get?_set_some.mp hlater
      · obtain ⟨hnew', -⟩ | ⟨-, hthere'⟩ := Dict.get?_set_some.mp hlater'
        · rw [hnew, hnew']
        · have hlt := hold hthere'
          omega
      · obtain ⟨-, rfl⟩ | ⟨-, hthere'⟩ := Dict.get?_set_some.mp hlater'
        · have hlt := hold hthere
          omega
        · exact h.distinct _ _ _ _ (hpruned.kept _ _ hthere) (hpruned.kept _ _ hthere') hsame
  | settled timerId record status hget _ _ =>
    refine h.of_old (Nat.le_refl _) fun timerId' later hlater => ?_
    obtain ⟨rfl, rfl⟩ | ⟨-, hlater⟩ := Dict.get?_set_some.mp hlater
    · exact ⟨record, hget, rfl⟩
    · exact ⟨later, hlater, rfl⟩

/-! ## Runs -/

/-- The bounds of the store, and what becomes of its records, at every moment of a run. -/
structure Bounded (ops : List Op) : Prop where
  records : ∀ pre, pre <+: ops → (machine.run pre).timers.size ≤ maxTimerRecords
  active : ∀ pre, pre <+: ops → activeCount (machine.run pre).timers ≤ maxActiveTimers
  /-- A pending timer is never removed. -/
  kept : ∀ pre op, pre ++ [op] <+: ops → ∀ timerId record,
    (machine.run pre).timers.get? timerId = some record → record.status = .pending →
    ∃ later, (machine.run (pre ++ [op])).timers.get? timerId = some later ∧ later.timer = record.timer
  /-- Between two moments a record has the same status, or was pending. -/
  once : ∀ pre mid, pre ++ mid <+: ops → ∀ timerId record timerId' later,
    (machine.run pre).timers.get? timerId = some record →
    (machine.run (pre ++ mid)).timers.get? timerId' = some later → later.timer = record.timer →
    timerId' = timerId ∧ later = { record with status := later.status } ∧
      (later.status = record.status ∨ record.status = .pending)

/-- A record comes in only where there is room for it, and not in the place of a pending one. -/
def Roomy (m : TimerManager) (op : Op) : Prop :=
  ∀ timerId, op.draws m = some timerId →
    (∀ record, m.timers.get? timerId = some record → record.status ≠ .pending) ∧
      (m.timers.size < maxTimerRecords ∨ (m.timers.get? timerId).isSome = true)

theorem run_within (ops : List Op) : Within (maxTimerRecords + 1) (machine.run ops) := by
  refine machine.inv_along (P := fun _ _ => True) ⟨Nat.zero_le _, Nat.zero_le _⟩ ?_ ?_
  · exact fun m op h _ => step_within h
  · exact fun _ _ _ _ => trivial

theorem run_numbered (ops : List Op) : Numbered (machine.run ops) := by
  refine machine.inv_along (P := fun _ _ => True) ⟨nofun, nofun⟩ ?_ ?_
  · exact fun m op h _ => step_numbered h
  · exact fun _ _ _ _ => trivial

/-- A record changes its status at most once, whatever the order of the events. -/
theorem run_once (pre mid : List Op) {timerId timerId' : PyStr} {record later : TimerRecord}
    (hrecord : (machine.run pre).timers.get? timerId = some record)
    (hlater : (machine.run (pre ++ mid)).timers.get? timerId' = some later) (htimer : later.timer = record.timer) :
    timerId' = timerId ∧ later = { record with status := later.status } ∧
      (later.status = record.status ∨ record.status = .pending) := by
  have hfollows : Follows (machine.run pre) (machine.run (pre ++ mid)) :=
    machine.between Follows.refl (fun _ _ _ => Follows.trans) step_follows pre mid
  have hnumbered := run_numbered pre
  obtain hnew | ⟨first, hfirst, hsame, hstatus⟩ := hfollows.records timerId' later hlater
  · have hlt := hnumbered.made timerId record hrecord
    omega
  · have hfirstTimer : first.timer = record.timer := by rw [← htimer, hsame]
    obtain rfl := hnumbered.distinct timerId' first timerId record hfirst hrecord hfirstTimer
    obtain rfl := Option.some.inj (hfirst.symm.trans hrecord)
    exact ⟨rfl, hsame, hstatus⟩

/-- With room for what comes in, the bound is kept. -/
theorem step_size {m : TimerManager} {op : Op} (h : m.timers.size ≤ maxTimerRecords) (hroomy : Roomy m op) :
    (machine.step m op).1.timers.size ≤ maxTimerRecords := by
  have hstepped := step_stepped m op
  generalize (machine.step m op).1 = m' at hstepped ⊢
  cases hstepped with
  | kept => exact h
  | pruned timers hpruned =>
    rw [hpruned.same h]
    exact h
  | created timers hpruned record hdraws _ _ _ =>
    obtain ⟨-, hroom⟩ := hroomy _ hdraws
    rw [hpruned.same h]
    show (m.timers.set record.timerId record).size ≤ maxTimerRecords
    obtain hless | hthere := hroom
    · exact Nat.le_trans (Dict.size_set_le _ _ _) hless
    · obtain ⟨old, hold⟩ := Option.isSome_iff_exists.mp hthere
      rw [Dict.size_set_mem hold]
      exact h
  | settled timerId record status hget _ _ =>
    show (m.timers.set timerId _).size ≤ maxTimerRecords
    rw [Dict.size_set_mem hget]
    exact h

theorem step_kept {m : TimerManager} {op : Op} (hroomy : Roomy m op) {timerId : PyStr} {record : TimerRecord}
    (hget : m.timers.get? timerId = some record) (hpending : record.status = .pending) :
    ∃ later, (machine.step m op).1.timers.get? timerId = some later ∧ later.timer = record.timer := by
  have hstepped := step_stepped m op
  generalize (machine.step m op).1 = m' at hstepped ⊢
  cases hstepped with
  | kept => exact ⟨record, hget, rfl⟩
  | pruned timers hpruned => exact ⟨record, hpruned.pending timerId record hget hpending, rfl⟩
  | created timers hpruned new hdraws _ _ _ =>
    have hne : timerId ≠ new.timerId := by
      rintro rfl
      exact (hroomy _ hdraws).1 record hget hpending
    exact ⟨record, Dict.get?_set_some.mpr (Or.inr ⟨hne, hpruned.pending timerId record hget hpending⟩), rfl⟩
  | settled timerId' old status hold _ _ =>
    by_cases hsame : timerId = timerId'
    · subst hsame
      obtain rfl := Option.some.inj (hget.symm.trans hold)
      exact ⟨_, Dict.get?_set_some.mpr (Or.inl ⟨rfl, rfl⟩), rfl⟩
    · exact ⟨record, Dict.get?_set_some.mpr (Or.inr ⟨hsame, hget⟩), rfl⟩

theorem bounded_of_roomy {ops : List Op} (h : machine.Along Roomy ops) : Bounded ops where
  records := by
    rintro pre ⟨post, rfl⟩
    have hinv : (fun m => m.timers.size ≤ maxTimerRecords) (machine.run pre) :=
      machine.inv_along (Nat.zero_le _) (fun _ _ => step_size) h.of_append
    exact hinv
  active pre _ := (run_within pre).active
  kept := by
    rintro pre op ⟨post, rfl⟩ timerId record hget hpending
    rw [Machine.run_concat]
    exact step_kept (h pre op post (by rw [List.append_assoc, List.singleton_append])) hget hpending
  once pre mid _ _ _ _ _ hrecord hlater htimer := run_once pre mid hrecord hlater htimer

/-- A record for which there is no room breaks a bound, and one in the place of a pending one removes it. -/
theorem roomy_of_bounded {ops : List Op} (h : Bounded ops) : machine.Along Roomy ops := by
  rintro pre op post rfl timerId hdraws
  have hnext : pre ++ [op] <+: pre ++ op :: post := ⟨post, by rw [List.append_assoc, List.singleton_append]⟩
  have hsize : (machine.run pre).timers.size ≤ maxTimerRecords := h.records pre (List.prefix_append _ _)
  obtain ⟨timers, new, hpruned, htimer, hstep⟩ := draws_created hdraws
  rw [hpruned.same hsize] at hstep
  refine ⟨?_, ?_⟩
  · intro record hget hpending
    obtain ⟨later, hlater, hkept⟩ := h.kept pre op hnext timerId record hget hpending
    rw [Machine.run_concat, hstep] at hlater
    obtain ⟨-, rfl⟩ | ⟨hne, -⟩ := Dict.get?_set_some.mp hlater
    · have hlt := (run_numbered pre).made timerId record hget
      omega
    · exact hne rfl
  · by_cases hthere : ((machine.run pre).timers.get? timerId).isSome = true
    · exact Or.inr hthere
    · have hafter := h.records (pre ++ [op]) hnext
      rw [Machine.run_concat, hstep] at hafter
      simp only at hafter
      have hset : ((machine.run pre).timers.set timerId new).size = (machine.run pre).timers.size + 1 :=
        Dict.size_set_new (Option.not_isSome_iff_eq_none.mp hthere)
      rw [hset] at hafter
      exact Or.inl hafter

/-- The bounds hold along a run just where each record that comes in finds room and takes the place of no
pending one. On every run no more than `MAX_ACTIVE_TIMERS` are pending, there is one record too many at most,
and a record changes its status at most once. -/
theorem timers_bounded (ops : List Op) : (Bounded ops ↔ machine.Along Roomy ops) ∧
    (∀ pre, pre <+: ops → (machine.run pre).timers.size ≤ maxTimerRecords + 1 ∧
      activeCount (machine.run pre).timers ≤ maxActiveTimers) ∧
    ∀ pre mid, pre ++ mid <+: ops → ∀ timerId record timerId' later,
      (machine.run pre).timers.get? timerId = some record →
      (machine.run (pre ++ mid)).timers.get? timerId' = some later → later.timer = record.timer →
      timerId' = timerId ∧ later = { record with status := later.status } ∧
        (later.status = record.status ∨ record.status = .pending) := by
  refine ⟨⟨roomy_of_bounded, bounded_of_roomy⟩, ?_, ?_⟩
  · exact fun pre _ => ⟨(run_within pre).size, (run_within pre).active⟩
  · exact fun pre mid _ _ _ _ _ hrecord hlater htimer => run_once pre mid hrecord hlater htimer

/-! ## One record too many -/

/-- An identifier as `token_urlsafe(8)` draws them. -/
def timerToken (n : Nat) : PyStr :=
  let letter (k : Nat) : CodePoint := CodePoint.ofChar (Char.ofNat (0x41 + k))
  PyStr.ofString "AAAAAAAAA" ++ [letter (n / 16), letter (n % 16)]

/-- Timers that are made and fire, one after the other. -/
def rounds : Nat → List Op
  | 0 => []
  | n + 1 =>
    rounds n ++ [.create (.int 60) (.str (PyStr.ofString "Pipα timer")) (timerToken n) 0, .fire (timerToken n)]

theorem timerToken_inj {i j : Nat} (hi : i < 0x200) (hj : j < 0x200) (h : timerToken i = timerToken j) :
    i = j := by
  have hletter : ∀ n < 0x20, ∀ k < 0x20,
      CodePoint.ofChar (Char.ofNat (0x41 + n)) = CodePoint.ofChar (Char.ofNat (0x41 + k)) → n = k := by
    decide
  obtain ⟨hhigh, hlow⟩ := List.cons.inj (List.append_cancel_left h)
  have hdiv := hletter _ (by omega) _ (by omega) hhigh
  have hmod := hletter _ (by omega) _ (by omega) (List.cons.inj hlow).1
  omega

/-- One round more: one record more, and it has fired. -/
theorem round_timers {m : TimerManager} {n : Nat} (hsize : m.timers.size = n) (hroom : n ≤ maxTimerRecords)
    (hactive : activeCount m.timers = 0) :
    ∃ record : TimerRecord, record.status = .fired ∧
      (((m.create (.int 60) (.str (PyStr.ofString "Pipα timer")) (timerToken n) 0).1).fire (timerToken n)).timers =
        m.timers.set (timerToken n) record := by
  have hrequest : checkRequest (.int 60) (.str (PyStr.ofString "Pipα timer")) =
      .ok (60, PyStr.ofString "Pipα timer") := by rfl
  have hprune : pruneCompletedLocked m.timers = some m.timers := if_pos (hsize ▸ hroom)
  have hfree : ¬ activeCount m.timers ≥ maxActiveTimers := by
    rw [hactive]
    decide
  refine ⟨⟨timerToken n, PyStr.ofString "Pipα timer", 0, 60, .fired, m.made⟩, rfl, ?_⟩
  simp [TimerManager.create, hrequest, hprune, hfree, TimerManager.fire]

theorem rounds_timers {n : Nat} (hn : n ≤ maxTimerRecords + 1) :
    (machine.run (rounds n)).timers.size = n ∧ activeCount (machine.run (rounds n)).timers = 0 ∧
      ∀ timerId, ((machine.run (rounds n)).timers.get? timerId).isSome = true →
        ∃ i < n, timerId = timerToken i := by
  induction n with
  | zero => exact ⟨rfl, rfl, nofun⟩
  | succ n ih =>
    obtain ⟨hsize, hactive, htokens⟩ := ih (Nat.le_of_succ_le hn)
    have hroom : n ≤ maxTimerRecords := Nat.le_of_succ_le_succ hn
    have hfresh : (machine.run (rounds n)).timers.get? (timerToken n) = none := by
      rw [← Option.not_isSome_iff_eq_none]
      intro hthere
      obtain ⟨i, hi, heq⟩ := htokens _ hthere
      simp only [maxTimerRecords] at hroom
      have hsame := timerToken_inj (by omega) (by omega) heq
      omega
    obtain ⟨record, hfired, hround⟩ := round_timers hsize hroom hactive
    have hrun : (machine.run (rounds (n + 1))).timers =
        (machine.run (rounds n)).timers.set (timerToken n) record := by
      rw [← hround, rounds, Machine.run, List.foldl_append]
      rfl
    rw [hrun]
    refine ⟨?_, ?_, ?_⟩
    · rw [Dict.size_set_new hfresh, hsize]
    · exact Nat.le_zero.mp (hactive ▸ activeCount_settled (by rw [hfired]; decide))
    · intro timerId hthere
      rw [Dict.get?_set] at hthere
      split at hthere
      · rename_i hsame
        exact ⟨n, Nat.lt_succ_self n, hsame⟩
      · obtain ⟨i, hi, heq⟩ := htokens timerId hthere
        exact ⟨i, Nat.lt_succ_of_lt hi, heq⟩

/-- After 257 timers that were made and have fired, the store holds them all. -/
theorem timer_records_exceeded : ¬ Bounded (rounds 257) := by
  intro h
  have hsize := h.records _ (List.prefix_refl _)
  rw [(rounds_timers (Nat.le_refl 257)).1] at hsize
  exact absurd hsize (by decide)

end Pipa.Tools.Timers
