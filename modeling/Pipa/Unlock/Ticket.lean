import Pipa.Unlock.Protocol

/- `TicketIssuer` (`trusted_unlock_ticket.py`): short-lived, one-use handles for a
   verified authorization. As in the verifier, the clock and the random token are
   arguments and a `del` that fails is an error of its own. -/
namespace Pipa.Unlock
open Pipa.Lib Pipa.Secure

def ticketTtlSeconds : Int := 5
def maxTicketTtlSeconds : Int := 10
def maxConsumedTickets : Nat := 4096

inductive TicketError where
  | unknown | expired | replay | operation | valueError | keyError
  deriving DecidableEq

structure IssuedTicket where
  token : PyStr
  deviceId : PyStr
  operation : PyStr
  issuedAt : Int
  expiresAt : Int
  deriving DecidableEq

structure TicketIssuer where
  tickets : Dict PyStr IssuedTicket
  consumed : Dict PyStr Int

namespace TicketIssuer

def empty : TicketIssuer := ⟨Dict.empty, Dict.empty⟩

/-- `_prune`. -/
def prune (i : TicketIssuer) (now : Int) : Option TicketIssuer := do
  let expired := (i.tickets.entries.filter (fun e => e.2.expiresAt ≤ now)).map Prod.fst
  let tickets ← i.tickets.delAll expired
  let expiredConsumed := (i.consumed.entries.filter (fun e => e.2 ≤ now)).map Prod.fst
  let consumed ← i.consumed.delAll expiredConsumed
  some ⟨tickets, consumed⟩

/-- `issue`; the token is `secrets.token_urlsafe(32)`. -/
def issue (i : TicketIssuer) (authorization : VerifiedAuthorization) (now ttlSeconds : Int)
    (tokenBytes : Fixed 32) : TicketIssuer × Except TicketError IssuedTicket :=
  if authorization.operation ≠ unlockOperation then (i, .error .operation)
  else if ttlSeconds < 1 || ttlSeconds > maxTicketTtlSeconds then (i, .error .valueError)
  else if now ≥ authorization.expiresAt then (i, .error .expired)
  else
    let ticket : IssuedTicket :=
      ⟨encode tokenBytes.val, authorization.deviceId, authorization.operation, now,
        min (now + ttlSeconds) authorization.expiresAt⟩
    match i.prune now with
    | none => (i, .error .keyError)
    | some i => ({ i with tickets := i.tickets.set ticket.token ticket }, .ok ticket)

/-- `consume`. -/
def consume (i : TicketIssuer) (token operation : PyStr) (now : Int) :
    TicketIssuer × Except TicketError IssuedTicket :=
  if token.isEmpty then (i, .error .unknown)
  else if i.consumed.contains token then (i, .error .replay)
  else match i.tickets.get? token with
    | none => (i, .error .unknown)
    | some ticket =>
      if now ≥ ticket.expiresAt then
        match (i.tickets.del token).bind (fun tickets => prune { i with tickets := tickets } now) with
        | none => (i, .error .keyError)
        | some i => (i, .error .expired)
      else if operation ≠ ticket.operation then (i, .error .operation)
      else
        match (i.tickets.del token).bind (fun tickets =>
            prune ⟨tickets, i.consumed.enter maxConsumedTickets token ticket.expiresAt⟩ now) with
        | none => (i, .error .keyError)
        | some i => (i, .ok ticket)

/-! ## What one call does -/

section
variable {i i' : TicketIssuer} {now : Int}

/-- No deletion of `_prune` fails, and nothing is added. -/
theorem prune_sub (i : TicketIssuer) (now : Int) :
    ∃ i', i.prune now = some i' ∧ i'.tickets.Sub i.tickets ∧ i'.consumed.Sub i.consumed := by
  refine ⟨⟨i.tickets.filter (fun _ t => !decide (t.expiresAt ≤ now)),
    i.consumed.filter (fun _ expiresAt => !decide (expiresAt ≤ now))⟩, ?_, Dict.sub_filter _ _, Dict.sub_filter _ _⟩
  simp only [prune, Dict.delAll_filter (fun _ t => decide (IssuedTicket.expiresAt t ≤ now)),
    Dict.delAll_filter (fun _ (expiresAt : Int) => decide (expiresAt ≤ now)), Option.bind_eq_bind,
    Option.bind_some]

/-- `issue`: it fails and changes nothing, or adds one ticket, the token of which was drawn. -/
theorem issue_cases (i : TicketIssuer) (authorization : VerifiedAuthorization) (now ttlSeconds : Int)
    (tokenBytes : Fixed 32) :
    (∃ e, i.issue authorization now ttlSeconds tokenBytes = (i, .error e)) ∨
    (∃ (i' : TicketIssuer) (t : IssuedTicket), i.issue authorization now ttlSeconds tokenBytes =
        ({ i' with tickets := i'.tickets.set t.token t }, .ok t) ∧
      i'.tickets.Sub i.tickets ∧ i'.consumed.Sub i.consumed ∧
      t = ⟨encode tokenBytes.val, authorization.deviceId, authorization.operation, now,
        min (now + ttlSeconds) authorization.expiresAt⟩) := by
  unfold issue
  split
  · exact Or.inl ⟨_, rfl⟩
  split
  · exact Or.inl ⟨_, rfl⟩
  split
  · exact Or.inl ⟨_, rfl⟩
  obtain ⟨i', hprune, htickets, hconsumed⟩ := prune_sub i now
  simp only [hprune]
  exact Or.inr ⟨i', _, rfl, htickets, hconsumed, rfl⟩

/-- `consume`: it fails, with entries dropped at most, or spends one live ticket before it expires. -/
theorem consume_cases (i : TicketIssuer) (token operation : PyStr) (now : Int) :
    (∃ i' e, i.consume token operation now = (i', .error e) ∧ i'.tickets.Sub i.tickets ∧
      i'.consumed.Sub i.consumed) ∨
    (∃ i' t, i.consume token operation now = (i', .ok t) ∧ i.tickets.get? token = some t ∧ now < t.expiresAt ∧
      i'.tickets.Sub i.tickets ∧ i'.tickets.get? token = none ∧
      ∀ k e, i'.consumed.get? k = some e → k = token ∨ ∃ e', i.consumed.get? k = some e') := by
  unfold consume
  split
  · exact Or.inl ⟨i, _, rfl, .refl _, .refl _⟩
  split
  · exact Or.inl ⟨i, _, rfl, .refl _, .refl _⟩
  split
  · exact Or.inl ⟨i, _, rfl, .refl _, .refl _⟩
  rename_i ticket hticket
  have herased : (i.tickets.erase token).Sub i.tickets := Dict.sub_filter _ _
  rw [Dict.del_eq hticket]
  simp only [Option.bind_some]
  split
  · obtain ⟨i', hprune, htickets, hconsumed⟩ := prune_sub { i with tickets := i.tickets.erase token } now
    simp only [hprune]
    exact Or.inl ⟨i', _, rfl, htickets.trans herased, hconsumed⟩
  split
  · exact Or.inl ⟨i, _, rfl, .refl _, .refl _⟩
  · rename_i hlive _
    obtain ⟨i', hprune, htickets, hconsumed⟩ := prune_sub
      ⟨i.tickets.erase token, i.consumed.enter maxConsumedTickets token ticket.expiresAt⟩ now
    simp only [hprune]
    refine Or.inr ⟨i', ticket, rfl, hticket, by omega, htickets.trans herased, htickets.none ?_, ?_⟩
    · rw [Dict.get?_erase, if_pos rfl]
    · intro k e he
      exact (Dict.enter_keys (hconsumed k e he)).imp_right (fun hk => ⟨e, hk⟩)

end

end TicketIssuer

end Pipa.Unlock
