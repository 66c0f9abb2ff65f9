import Pipa.Unlock.Broker

/- The broker as the boundary in front of the unlock: what any sequence of requests
   can do. The verifier inside it makes the run `verifierOps` of the requests, so
   its results carry over (`Challenges`); the tickets are one-use handles of their
   own (`OneUse`), each for one verified challenge. -/
namespace Pipa.Unlock
open Pipa.Lib Pipa.Secure

namespace TrustedUnlockBroker

/-! ## Histories -/

/-- The call of the verifier a request makes. -/
def verifierOp (loads : Bytes → Loaded) (call : Bytes × Env) : Option AuthorizationVerifier.Op :=
  match commandOf loads call.1 with
  | some (.create deviceId ttlSeconds) =>
    some (.create deviceId call.2.now ttlSeconds unlockOperation call.2.idBytes call.2.nonce)
  | some (.submit response) => some (.verify response call.2.now)
  | _ => none

def verifierOps (loads : Bytes → Loaded) (calls : List (Bytes × Env)) : List AuthorizationVerifier.Op :=
  calls.filterMap (verifierOp loads)

/-- The random bytes a submission draws for its ticket. -/
def tokenDrawn (loads : Bytes → Loaded) (call : Bytes × Env) : Option (Fixed 32) :=
  match commandOf loads call.1 with
  | some (.submit _) => some call.2.tokenBytes
  | _ => none

def drawnTokens (loads : Bytes → Loaded) (calls : List (Bytes × Env)) : List (Fixed 32) :=
  calls.filterMap (tokenDrawn loads)

def tokenText (b : Fixed 32) : PyStr := encode b.val

/-- The challenges that were given out. -/
def challenges (outs : List (Option Response)) : List Challenge :=
  outs.filterMap (fun o => match resultOf o with
    | some (.challenge c) => some c
    | _ => none)

/-- The tickets that were given out, each with its authorization. -/
def submissions (outs : List (Option Response)) : List (VerifiedAuthorization × IssuedTicket) :=
  outs.filterMap (fun o => match resultOf o with
    | some (.ticket a t) => some (a, t)
    | _ => none)

/-- The tickets that were consumed. -/
def consumptions (outs : List (Option Response)) : List IssuedTicket :=
  outs.filterMap (fun o => match resultOf o with
    | some (.consumed t) => some t
    | _ => none)

section
variable {outs : List (Option Response)} {o : Option Response}

/-- What a response adds to each history. -/
theorem histories_concat (outs : List (Option Response)) (o : Option Response) :
    challenges (outs ++ [o]) = challenges outs ++ challenges [o] ∧
      submissions (outs ++ [o]) = submissions outs ++ submissions [o] ∧
      consumptions (outs ++ [o]) = consumptions outs ++ consumptions [o] :=
  ⟨List.filterMap_append, List.filterMap_append, List.filterMap_append⟩

/-- A response gives out at most one of the three. -/
theorem histories_one (o : Option Response) :
    challenges [o] = (match resultOf o with
      | some (.challenge c) => [c]
      | _ => []) ∧
    submissions [o] = (match resultOf o with
      | some (.ticket a t) => [(a, t)]
      | _ => []) ∧
    consumptions [o] = (match resultOf o with
      | some (.consumed t) => [t]
      | _ => []) := by
  simp only [challenges, submissions, consumptions, List.filterMap_cons, List.filterMap_nil]
  cases resultOf o with
  | none => exact ⟨rfl, rfl, rfl⟩
  | some r => cases r <;> exact ⟨rfl, rfl, rfl⟩

end

/-! ## The invariant -/

section
variable (verify : Fixed 32 → Fixed 64 → Bytes → Bool) (loads : Bytes → Loaded) (devices : Dict PyStr (Fixed 32))
  (skew : Int)

/-- The run of the verifier inside. -/
def verifierRun (calls : List (Bytes × Env)) : AuthorizationVerifier :=
  (AuthorizationVerifier.machine verify devices skew).run (verifierOps loads calls)

def verifierOuts (calls : List (Bytes × Env)) : List AuthorizationVerifier.Out :=
  (AuthorizationVerifier.machine verify devices skew).outs (verifierOps loads calls)

/-- What the calls and responses so far have to do with the broker they leave. -/
structure Brokered (calls : List (Bytes × Env)) (outs : List (Option Response)) (b : TrustedUnlockBroker) :
    Prop where
  verifier : b.verifier = verifierRun verify loads devices skew calls
  issued : AuthorizationVerifier.issued (verifierOuts verify loads devices skew calls) = challenges outs
  verified : ((submissions outs).map (fun s => s.1.challengeId)).Sublist
    (AuthorizationVerifier.verifiedIds (verifierOuts verify loads devices skew calls))
  tickets : OneUse IssuedTicket.token ((drawnTokens loads calls).map tokenText) ((submissions outs).map Prod.snd)
    ((consumptions outs).map IssuedTicket.token) b.ticketIssuer.tickets b.ticketIssuer.consumed
  consumed : ∀ t ∈ consumptions outs, ∃ a, (a, t) ∈ submissions outs
  lifetime : ∀ s ∈ submissions outs, s.2.expiresAt = min (s.2.issuedAt + ticketTtlSeconds) s.1.expiresAt ∧
    ∃ c ∈ challenges outs, c.challengeId = s.1.challengeId ∧ c.expiresAt = s.1.expiresAt

variable {verify loads devices skew}
variable {calls : List (Bytes × Env)} {outs : List (Option Response)} {b b' : TrustedUnlockBroker}
  {call : Bytes × Env} {o : Option Response}

theorem drawnTokens_concat (calls : List (Bytes × Env)) (call : Bytes × Env) :
    drawnTokens loads (calls ++ [call]) = drawnTokens loads calls ++ (tokenDrawn loads call).toList := by
  unfold drawnTokens
  rw [List.filterMap_append]
  cases h : tokenDrawn loads call <;> simp [h]

/-- The run of the verifier after one more request. -/
theorem Brokered.verifier_concat (h : Brokered verify loads devices skew calls outs b) (call : Bytes × Env) :
    verifierRun verify loads devices skew (calls ++ [call]) =
        (verifierOp loads call).elim b.verifier (fun op => (b.verifier.step verify op).1) ∧
      verifierOuts verify loads devices skew (calls ++ [call]) =
        verifierOuts verify loads devices skew calls ++
          ((verifierOp loads call).map (fun op => (b.verifier.step verify op).2)).toList := by
  rw [h.verifier]
  unfold verifierRun verifierOuts verifierOps
  rw [List.filterMap_append]
  cases hop : verifierOp loads call with
  | none => simp [hop]
  | some op =>
    simp only [List.filterMap_cons, List.filterMap_nil, hop, Option.elim_some, Option.map_some,
      Option.toList_some]
    exact ⟨Machine.run_concat _ _ _, Machine.outs_concat _ _ _⟩

/-- A request that gives nothing out and whose call of the verifier, if any, issues and verifies
nothing. -/
theorem Brokered.quiet (h : Brokered verify loads devices skew calls outs b)
    (hv : b'.verifier = verifierRun verify loads devices skew (calls ++ [call]))
    (hissued : ∀ op, verifierOp loads call = some op → (b.verifier.step verify op).2.issued = none)
    (hresult : resultOf o = none ∨ ∃ m n, resultOf o = some (.health m n))
    (htickets : b'.ticketIssuer.tickets.Sub b.ticketIssuer.tickets)
    (hconsumed : b'.ticketIssuer.consumed.Sub b.ticketIssuer.consumed) :
    Brokered verify loads devices skew (calls ++ [call]) (outs ++ [o]) b' := by
  obtain ⟨hc, hs, hk⟩ := histories_concat outs o
  have hnone : challenges [o] = [] ∧ submissions [o] = [] ∧ consumptions [o] = [] := by
    obtain ⟨h1, h2, h3⟩ := histories_one o
    rw [h1, h2, h3]
    obtain hnone | ⟨m, n, hhealth⟩ := hresult
    · simp only [hnone, and_self]
    · simp only [hhealth, and_self]
  obtain ⟨-, houts⟩ := h.verifier_concat call
  rw [hnone.1, List.append_nil] at hc
  rw [hnone.2.1, List.append_nil] at hs
  rw [hnone.2.2, List.append_nil] at hk
  refine ⟨hv, ?_, ?_, ?_, ?_, ?_⟩
  · rw [hc, ← h.issued, houts]
    cases hop : verifierOp loads call with
    | none => simp
    | some op =>
      simp only [Option.map_some, Option.toList_some, AuthorizationVerifier.issued_concat, hissued op hop,
        Option.toList_none, List.append_nil]
  · rw [hs, houts]
    cases hop : verifierOp loads call with
    | none => simpa using h.verified
    | some op =>
      simp only [Option.map_some, Option.toList_some, AuthorizationVerifier.verifiedIds_concat]
      exact h.verified.trans (List.sublist_append_left _ _)
  · rw [hs, hk, drawnTokens_concat, List.map_append]
    exact h.tickets.drop htickets hconsumed _
  · rw [hs, hk]
    exact h.consumed
  · rw [hs, hc]
    exact h.lifetime

/-- A challenge is given out. -/
theorem Brokered.challenge (h : Brokered verify loads devices skew calls outs b) {op : AuthorizationVerifier.Op}
    {c : Challenge} (hop : verifierOp loads call = some op) (htoken : tokenDrawn loads call = none)
    (hout : (b.verifier.step verify op).2 = .created (.ok c)) (hresult : resultOf o = some (.challenge c)) :
    Brokered verify loads devices skew (calls ++ [call]) (outs ++ [o])
      { b with verifier := (b.verifier.step verify op).1 } := by
  obtain ⟨hc, hs, hk⟩ := histories_concat outs o
  obtain ⟨h1, h2, h3⟩ := histories_one o
  simp only [hresult] at h1 h2 h3
  rw [h1] at hc
  rw [h2, List.append_nil] at hs
  rw [h3, List.append_nil] at hk
  obtain ⟨hrun, houts⟩ := h.verifier_concat call
  simp only [hop, Option.elim_some, Option.map_some, Option.toList_some, hout] at hrun houts
  refine ⟨hrun.symm, ?_, ?_, ?_, ?_, ?_⟩
  · rw [hc, houts, AuthorizationVerifier.issued_concat, h.issued]
    rfl
  · rw [hs, houts, AuthorizationVerifier.verifiedIds_concat]
    exact h.verified.trans (List.sublist_append_left _ _)
  · rw [hs, hk, drawnTokens_concat, htoken]
    simpa using h.tickets
  · rw [hs, hk]
    exact h.consumed
  · rw [hs, hc]
    intro s hmem
    obtain ⟨hexpires, c', hc', hid⟩ := h.lifetime s hmem
    exact ⟨hexpires, c', List.mem_append_left _ hc', hid⟩

/-- A ticket is given out for a challenge that has just been verified. -/
theorem Brokered.ticket (h : Brokered verify loads devices skew calls outs b) {op : AuthorizationVerifier.Op}
    {a : VerifiedAuthorization} {t : IssuedTicket} {issuer : TicketIssuer}
    (hop : verifierOp loads call = some op) (htoken : tokenDrawn loads call = some call.2.tokenBytes)
    (hfresh : call.2.tokenBytes ∉ drawnTokens loads calls)
    (hout : (b.verifier.step verify op).2 = .verified (.ok a)) (hresult : resultOf o = some (.ticket a t))
    (hissuer : issuer.tickets.Sub b.ticketIssuer.tickets ∧ issuer.consumed.Sub b.ticketIssuer.consumed)
    (ht : t = ⟨encode call.2.tokenBytes.val, a.deviceId, a.operation, call.2.issueNow,
      min (call.2.issueNow + ticketTtlSeconds) a.expiresAt⟩)
    (hc : ∃ c ∈ challenges outs, c.challengeId = a.challengeId ∧ c.expiresAt = a.expiresAt) :
    Brokered verify loads devices skew (calls ++ [call]) (outs ++ [o])
      ⟨(b.verifier.step verify op).1, { issuer with tickets := issuer.tickets.set t.token t }⟩ := by
  obtain ⟨hcs, hs, hk⟩ := histories_concat outs o
  obtain ⟨h1, h2, h3⟩ := histories_one o
  simp only [hresult] at h1 h2 h3
  rw [h1, List.append_nil] at hcs
  rw [h2] at hs
  rw [h3, List.append_nil] at hk
  obtain ⟨hrun, houts⟩ := h.verifier_concat call
  simp only [hop, Option.elim_some, Option.map_some, Option.toList_some, hout] at hrun houts
  have htext : t.token = tokenText call.2.tokenBytes := by rw [ht]; rfl
  have hnew : t.token ∉ (drawnTokens loads calls).map tokenText := by
    rw [htext]
    intro hmem
    obtain ⟨x, hx, heq⟩ := List.mem_map.mp hmem
    have : x = call.2.tokenBytes := Subtype.ext (encode_inj heq)
    exact hfresh (this ▸ hx)
  refine ⟨hrun.symm, ?_, ?_, ?_, ?_, ?_⟩
  · rw [hcs, houts, AuthorizationVerifier.issued_concat, h.issued]
    simp [AuthorizationVerifier.Out.issued]
  · rw [hs, houts, AuthorizationVerifier.verifiedIds_concat, List.map_append]
    exact h.verified.append (List.Sublist.refl [a.challengeId])
  · rw [hs, hk, drawnTokens_concat, htoken, List.map_append, List.map_append]
    simp only [Option.toList_some, List.map_cons, List.map_nil, ← htext]
    exact h.tickets.issue hissuer.1 hissuer.2 hnew
  · rw [hs, hk]
    intro t' ht'
    obtain ⟨a', ha'⟩ := h.consumed t' ht'
    exact ⟨a', List.mem_append_left _ ha'⟩
  · rw [hs, hcs]
    intro s hmem
    rw [List.mem_append, List.mem_singleton] at hmem
    obtain hmem | rfl := hmem
    · exact h.lifetime s hmem
    · exact ⟨by rw [ht], hc⟩

/-- A live ticket is consumed. -/
theorem Brokered.consume (h : Brokered verify loads devices skew calls outs b) {t : IssuedTicket} {token : PyStr}
    {issuer : TicketIssuer} (hop : verifierOp loads call = none) (htoken : tokenDrawn loads call = none)
    (hresult : resultOf o = some (.consumed t)) (hlive : b.ticketIssuer.tickets.get? token = some t)
    (hsub : issuer.tickets.Sub b.ticketIssuer.tickets) (hgone : issuer.tickets.get? token = none)
    (hused : ∀ k e, issuer.consumed.get? k = some e → k = token ∨ ∃ e', b.ticketIssuer.consumed.get? k = some e') :
    Brokered verify loads devices skew (calls ++ [call]) (outs ++ [o]) { b with ticketIssuer := issuer } := by
  obtain ⟨hcs, hs, hk⟩ := histories_concat outs o
  obtain ⟨h1, h2, h3⟩ := histories_one o
  simp only [hresult] at h1 h2 h3
  rw [h1, List.append_nil] at hcs
  rw [h2, List.append_nil] at hs
  rw [h3] at hk
  obtain ⟨hrun, houts⟩ := h.verifier_concat call
  simp only [hop, Option.elim_none, Option.map_none, Option.toList_none, List.append_nil] at hrun houts
  refine ⟨hrun.symm, ?_, ?_, ?_, ?_, ?_⟩
  · rw [hcs, houts, h.issued]
  · rw [hs, houts]
    exact h.verified
  · rw [hs, hk, drawnTokens_concat, htoken]
    simp only [Option.toList_none, List.append_nil, List.map_append, List.map_cons, List.map_nil,
      h.tickets.keys token t hlive]
    exact h.tickets.spend hsub hlive hgone hused
  · rw [hs, hk]
    intro t' ht'
    rw [List.mem_append, List.mem_singleton] at ht'
    obtain ht' | rfl := ht'
    · exact h.consumed t' ht'
    · obtain ⟨s, hmem, heq⟩ := List.mem_map.mp (h.tickets.wasIssued token _ hlive)
      exact ⟨s.1, heq ▸ hmem⟩
  · rw [hs, hcs]
    exact h.lifetime

/-- One request, by the command it carries. -/
theorem Brokered.step (h : Brokered verify loads devices skew calls outs b) {ids : List (Fixed 16)}
    (hauth : AuthorizationVerifier.Authorized ids (verifierOuts verify loads devices skew calls) b.verifier)
    (hfresh : (drawnTokens loads (calls ++ [call])).Nodup) :
    Brokered verify loads devices skew (calls ++ [call])
      (outs ++ [(b.handleBytes verify true loads call.1 call.2).2]) (b.handleBytes verify true loads call.1 call.2).1 := by
  obtain ⟨hstate, hresult⟩ := handleBytes_eq verify true loads b call.1 call.2
  rw [hstate]
  obtain ⟨hrun, -⟩ := h.verifier_concat call
  -- the call of the verifier and the token, by the command
  have hop : verifierOp loads call = (match commandOf loads call.1 with
    | some (.create deviceId ttlSeconds) =>
      some (.create deviceId call.2.now ttlSeconds unlockOperation call.2.idBytes call.2.nonce)
    | some (.submit response) => some (.verify response call.2.now)
    | _ => none) := rfl
  have htoken : tokenDrawn loads call = (match commandOf loads call.1 with
    | some (.submit _) => some call.2.tokenBytes
    | _ => none) := rfl
  cases hcommand : commandOf loads call.1 with
  | none =>
    simp only [hcommand, Option.elim_none, Option.bind_none] at hop htoken hresult hrun ⊢
    refine h.quiet ?_ ?_ (Or.inl hresult) (.refl _) (.refl _)
    · rw [hrun, hop]
      rfl
    · intro op hsome
      rw [hop] at hsome
      cases hsome
  | some command =>
    rw [hcommand] at hop htoken hresult
    simp only [Option.elim_some, Option.bind_some] at hresult ⊢
    cases command with
    | health =>
      refine h.quiet ?_ ?_ (Or.inr ⟨_, _, hresult⟩) (.refl _) (.refl _)
      · rw [hrun, hop]
        rfl
      · intro op hsome
        rw [hop] at hsome
        cases hsome
    | create deviceId ttlSeconds =>
      simp only [perform, Bool.not_true, Bool.false_eq_true, if_false] at hresult ⊢
      simp only [hop, Option.elim_some] at hrun
      obtain ⟨v', e, heq, -⟩ | ⟨v', c, heq, -⟩ := AuthorizationVerifier.createChallenge_cases b.verifier deviceId
        call.2.now ttlSeconds unlockOperation call.2.idBytes call.2.nonce
      · rw [heq] at hresult ⊢
        refine h.quiet ?_ ?_ (Or.inl hresult) (.refl _) (.refl _)
        · rw [hrun, AuthorizationVerifier.step, heq]
        · intro op hsome
          rw [hop] at hsome
          obtain rfl := Option.some.inj hsome
          rw [AuthorizationVerifier.step, heq]
          rfl
      · rw [heq] at hresult
        have hstep : (b.verifier.step verify (.create deviceId call.2.now ttlSeconds unlockOperation
            call.2.idBytes call.2.nonce)).2 = .created (.ok c) := by
          rw [AuthorizationVerifier.step, heq]
        have hdone := h.challenge hop htoken hstep hresult
        rw [AuthorizationVerifier.step, heq] at hdone
        rw [heq]
        exact hdone
    | submit response =>
      simp only [perform, Bool.not_true, Bool.false_eq_true, if_false] at hresult ⊢
      simp only [hop, Option.elim_some] at hrun
      obtain ⟨v', e, heq, -⟩ | ⟨v', c, a, heq, -, hverified⟩ :=
        AuthorizationVerifier.verifyResponse_cases verify b.verifier response call.2.now hauth.keys
      · rw [heq] at hresult ⊢
        refine h.quiet ?_ ?_ (Or.inl hresult) (.refl _) (.refl _)
        · rw [hrun, AuthorizationVerifier.step, heq]
        · intro op hsome
          rw [hop] at hsome
          obtain rfl := Option.some.inj hsome
          rfl
      · rw [heq] at hresult ⊢
        obtain ⟨e, hissue⟩ | ⟨issuer, t, hissue, htickets, hconsumed, ht⟩ :=
          TicketIssuer.issue_cases b.ticketIssuer a call.2.issueNow ticketTtlSeconds call.2.tokenBytes
        · -- verified, but too late for a ticket
          simp only [hissue] at hresult ⊢
          refine h.quiet ?_ ?_ (Or.inl hresult) (.refl _) (.refl _)
          · rw [hrun, AuthorizationVerifier.step, heq]
          · intro op hsome
            rw [hop] at hsome
            obtain rfl := Option.some.inj hsome
            rfl
        · simp only [hissue] at hresult ⊢
          have hstep : (b.verifier.step verify (.verify response call.2.now)).2 = .verified (.ok a) := by
            rw [AuthorizationVerifier.step, heq]
          have hnew : call.2.tokenBytes ∉ drawnTokens loads calls := by
            rw [drawnTokens_concat, htoken] at hfresh
            intro hmem
            exact (List.nodup_append.mp hfresh).2.2 _ hmem _ (by simp) rfl
          have hc : ∃ c ∈ challenges outs, c.challengeId = a.challengeId ∧ c.expiresAt = a.expiresAt := by
            refine ⟨c, h.issued ▸ hauth.oneUse.wasIssued _ c hverified.pending, ?_⟩
            rw [hverified.result]
            exact ⟨rfl, rfl⟩
          have hdone := h.ticket hop htoken hnew hstep hresult ⟨htickets, hconsumed⟩ ht hc
          rw [AuthorizationVerifier.step, heq] at hdone
          exact hdone
    | consume token =>
      simp only [perform, Bool.not_true, Bool.false_eq_true, if_false] at hresult ⊢
      simp only [hop, Option.elim_none] at hrun
      obtain ⟨issuer, e, heq, htickets, hconsumed⟩ | ⟨issuer, t, heq, hlive, -, hsub, hgone, hused⟩ :=
        TicketIssuer.consume_cases b.ticketIssuer token unlockOperation call.2.now
      · simp only [heq] at hresult ⊢
        refine h.quiet hrun.symm ?_ (Or.inl hresult) htickets hconsumed
        intro op hsome
        rw [hop] at hsome
        cases hsome
      · simp only [heq] at hresult ⊢
        exact h.consume hop htoken hresult hlive hsub hgone hused

theorem run_brokered {calls : List (Bytes × Env)}
    (hids : (AuthorizationVerifier.drawnIds (verifierOps loads calls)).Nodup)
    (htokens : (drawnTokens loads calls).Nodup) :
    Brokered verify loads devices skew calls ((machine verify true loads devices skew).outs calls)
      ((machine verify true loads devices skew).run calls) := by
  induction calls using List.reverseRecOn with
  | nil =>
    refine ⟨rfl, rfl, List.Sublist.refl _, OneUse.empty, ?_, ?_⟩
    · intro t ht
      cases ht
    · intro s hs
      cases hs
  | append_singleton pre call ih =>
    have hpre : (AuthorizationVerifier.drawnIds (verifierOps loads pre)).Nodup := by
      rw [verifierOps, List.filterMap_append, AuthorizationVerifier.drawnIds, List.filterMap_append] at hids
      exact (List.nodup_append.mp hids).1
    have htokens' := htokens
    rw [drawnTokens_concat] at htokens'
    have hbrokered := ih hpre (List.nodup_append.mp htokens').1
    have hauth : AuthorizationVerifier.Authorized (AuthorizationVerifier.drawnIds (verifierOps loads pre))
        (verifierOuts verify loads devices skew pre) ((machine verify true loads devices skew).run pre).verifier := by
      rw [hbrokered.verifier]
      exact AuthorizationVerifier.run_authorized hpre
    rw [Machine.run_concat, Machine.outs_concat]
    exact hbrokered.step hauth htokens

/-! ## The boundary -/

/-- A consumption answers a `ticket.consume`, of a live ticket that has not expired. -/
theorem consumed_result {t : IssuedTicket}
    (hresult : resultOf (b.handleBytes verify true loads call.1 call.2).2 = some (.consumed t)) :
    ∃ token, commandOf loads call.1 = some (.consume token) ∧ b.ticketIssuer.tickets.get? token = some t ∧
      call.2.now < t.expiresAt := by
  rw [(handleBytes_eq verify true loads b call.1 call.2).2] at hresult
  cases hcommand : commandOf loads call.1 with
  | none =>
    rw [hcommand] at hresult
    cases hresult
  | some command =>
    simp only [hcommand, Option.bind_some] at hresult
    cases command with
    | health => cases hresult
    | create deviceId ttlSeconds =>
      simp only [perform, Bool.not_true, Bool.false_eq_true, if_false] at hresult
      split at hresult <;> cases hresult
    | submit response =>
      simp only [perform, Bool.not_true, Bool.false_eq_true, if_false] at hresult
      split at hresult
      · cases hresult
      · split at hresult <;> cases hresult
    | consume token =>
      simp only [perform, Bool.not_true, Bool.false_eq_true, if_false] at hresult
      obtain ⟨issuer, e, heq, -⟩ | ⟨issuer, t', heq, hlive, hnow, -⟩ :=
        TicketIssuer.consume_cases b.ticketIssuer token unlockOperation call.2.now
      · rw [heq] at hresult
        cases hresult
      · rw [heq] at hresult
        obtain rfl : t' = t := Result.consumed.inj (Option.some.inj hresult)
        exact ⟨token, rfl, hlive, hnow⟩

/-- While the guard is up, a run changes nothing and gives nothing out but its health. -/
theorem run_disabled (calls : List (Bytes × Env)) :
    (machine verify false loads devices skew).run calls = (machine verify false loads devices skew).init ∧
      ∀ o ∈ (machine verify false loads devices skew).outs calls, ∀ result, resultOf o = some result →
        ∃ m n, result = .health m n := by
  induction calls using List.reverseRecOn with
  | nil => exact ⟨rfl, fun o ho => by cases ho⟩
  | append_singleton pre call ih =>
    obtain ⟨hrun, houts⟩ := ih
    obtain ⟨hsame, hhealth⟩ := handleBytes_disabled verify loads
      ((machine verify false loads devices skew).run pre) call.1 call.2
    rw [Machine.run_concat, Machine.outs_concat]
    refine ⟨hsame.trans hrun, ?_⟩
    intro o ho
    rw [List.mem_append, List.mem_singleton] at ho
    obtain ho | rfl := ho
    · exact houts o ho
    · exact hhealth

/-- Two tickets given out for one challenge are one ticket. -/
theorem Brokered.same_challenge (h : Brokered verify loads devices skew calls outs b) {ids : List (Fixed 16)}
    (hauth : AuthorizationVerifier.Authorized ids (verifierOuts verify loads devices skew calls) b.verifier)
    {s s' : VerifiedAuthorization × IssuedTicket} (hs : s ∈ submissions outs) (hs' : s' ∈ submissions outs)
    (heq : s.1.challengeId = s'.1.challengeId) : s = s' :=
  List.inj_on_of_nodup_map (h.verified.nodup hauth.oneUse.once) hs hs' heq

end

/-- The broker end to end, whatever bytes it is given. As it is shipped, no request changes anything
and no response gives out a challenge, a ticket or a consumption. With the guard down, and challenge
ids and tokens drawn fresh: a consumption is of a token that an earlier submission gave out, for a
challenge given out before, earlier than the end of either; no token is consumed twice, and no two
consumptions are for one challenge. -/
theorem broker_end_to_end (verify : Fixed 32 → Fixed 64 → Bytes → Bool) (loads : Bytes → Loaded)
    (devices : Dict PyStr (Fixed 32)) (skew : Int) (calls : List (Bytes × Env)) :
    ((machine verify unlockEnabled loads devices skew).run calls =
        (machine verify unlockEnabled loads devices skew).init ∧
      ∀ o ∈ (machine verify unlockEnabled loads devices skew).outs calls, ∀ result, resultOf o = some result →
        ∃ m n, result = .health m n) ∧
    ((AuthorizationVerifier.drawnIds (verifierOps loads calls)).Nodup → (drawnTokens loads calls).Nodup →
      let m := machine verify true loads devices skew
      (∀ pre call post t, calls = pre ++ call :: post → resultOf (m.out pre call) = some (.consumed t) →
        commandOf loads call.1 = some (.consume t.token) ∧
        ∃ a c, (a, t) ∈ submissions (m.outs pre) ∧ c ∈ challenges (m.outs pre) ∧ c.challengeId = a.challengeId ∧
          call.2.now < min (t.issuedAt + ticketTtlSeconds) c.expiresAt) ∧
      ((consumptions (m.outs calls)).map IssuedTicket.token).Nodup ∧
      (consumptions (m.outs calls)).Pairwise (fun t t' => ∀ a a', (a, t) ∈ submissions (m.outs calls) →
        (a', t') ∈ submissions (m.outs calls) → a.challengeId ≠ a'.challengeId)) := by
  refine ⟨run_disabled calls, ?_⟩
  intro hids htokens m
  have hall : Brokered verify loads devices skew calls (m.outs calls) (m.run calls) := run_brokered hids htokens
  refine ⟨?_, hall.tickets.once, ?_⟩
  · intro pre call post t hcalls hresult
    have hpre : Brokered verify loads devices skew pre (m.outs pre) (m.run pre) := by
      refine run_brokered ?_ ?_
      · rw [hcalls, verifierOps, List.filterMap_append, AuthorizationVerifier.drawnIds, List.filterMap_append] at hids
        exact (List.nodup_append.mp hids).1
      · rw [hcalls, drawnTokens, List.filterMap_append] at htokens
        exact (List.nodup_append.mp htokens).1
    obtain ⟨token, hcommand, hlive, hnow⟩ := consumed_result hresult
    rw [hpre.tickets.keys token t hlive]
    refine ⟨hcommand, ?_⟩
    obtain ⟨s, hs, rfl⟩ := List.mem_map.mp (hpre.tickets.wasIssued token t hlive)
    obtain ⟨hexpires, c, hc, hid, hend⟩ := hpre.lifetime s hs
    exact ⟨s.1, c, hs, hc, hid, by rw [hend, ← hexpires]; exact hnow⟩
  · have hauth : AuthorizationVerifier.Authorized (AuthorizationVerifier.drawnIds (verifierOps loads calls))
        (verifierOuts verify loads devices skew calls) (m.run calls).verifier := by
      rw [hall.verifier]
      exact AuthorizationVerifier.run_authorized hids
    refine (List.pairwise_map.mp hall.tickets.once).imp ?_
    intro t t' hne a a' ha ha' hid
    have hsame := hall.same_challenge hauth ha ha' hid
    exact hne (congrArg (fun s => s.2.token) hsame)

/-- A request, as the client of the pipe writes it. -/
def pipaRequest (command : String) (payload : Object) : Value :=
  .dict [(PyStr.ofString "version", .int 1), (PyStr.ofString "request_id", .str (PyStr.ofString "r1")),
    (PyStr.ofString "command", .str (PyStr.ofString command)), (PyStr.ofString "payload", .dict payload)]

/-- A challenge is created, answered and its ticket consumed. -/
def pipaRequests : List Value :=
  [pipaRequest "challenge.create" [(PyStr.ofString "device_id", .str (PyStr.ofString "pipa-1"))],
   pipaRequest "challenge.submit" [(PyStr.ofString "response", .dict
     [(PyStr.ofString "challenge_id", .str (encode (List.replicate 16 1))),
      (PyStr.ofString "device_id", .str (PyStr.ofString "pipa-1")),
      (PyStr.ofString "signature", .str (encode AuthorizationVerifier.pipaResponse.signature.val))])],
   pipaRequest "ticket.consume" [(PyStr.ofString "token", .str (encode (List.replicate 32 3)))]]

def requestBytes (request : Value) : Bytes := ((dumps false request).bind PyStr.encode).getD []

/-- `json.loads` on the bytes of these requests. -/
def pipaLoads (raw : Bytes) : Loaded :=
  ((pipaRequests.find? (fun request => requestBytes request = raw)).map Loaded.value).getD .invalid

def pipaCalls : List (Bytes × Env) :=
  (pipaRequests.map requestBytes).zip
    [⟨100, 100, .fill 16 1, .fill 32 2, .fill 32 0⟩,
     ⟨110, 110, .fill 16 0, .fill 32 0, .fill 32 3⟩,
     ⟨112, 112, .fill 16 0, .fill 32 0, .fill 32 0⟩]

theorem broker_end_to_end_pipaCalls :
    (consumptions ((machine Crypto.checksum.verify true pipaLoads AuthorizationVerifier.pipaDevices 5).outs
        pipaCalls)).map IssuedTicket.token = [encode (List.replicate 32 3)] ∧
      ((consumptions ((machine Crypto.checksum.verify true pipaLoads AuthorizationVerifier.pipaDevices 5).outs
        pipaCalls)).map IssuedTicket.token).Nodup :=
  ⟨by decide +kernel, ((broker_end_to_end Crypto.checksum.verify pipaLoads AuthorizationVerifier.pipaDevices 5
    pipaCalls).2 (by decide +kernel) (by decide +kernel)).2.1⟩

end TrustedUnlockBroker

end Pipa.Unlock
