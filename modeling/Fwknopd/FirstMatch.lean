import Fwknopd.Reference
import Fwknopd.Search

/-! The stanza search stops at the first stanza that acts: only a failed command-cycle open
answers KEEP_SEARCHING after acting. -/
namespace Fwknopd

variable {σ : Type} {env : Env σ} {opts : FkoSrvOptions} {clock : Clock} {pkt : SpaPktInfo}
  {rd : Option String} {age : Int} {acc : AccStanza} {n : Nat} {m : MsgType} {w : Work σ}
  {e : Event}

def Call.Succeeds : Call → Prop
  | .cmdCycleOpen _ _ ok => ok = true
  | .runExtcmd _ | .runExtcmdAs .. | .processSpaRequest _ => True
  | .fkoNewWithData .. | .fkoDecryptSpaData .. | .addReplay .. | .fault => False

instance : DecidablePred Call.Succeeds
  | .cmdCycleOpen _ _ ok => inferInstanceAs (Decidable (ok = true))
  | .runExtcmd _ | .runExtcmdAs .. | .processSpaRequest _ => isTrue trivial
  | .fkoNewWithData .. | .fkoDecryptSpaData .. | .addReplay .. | .fault => isFalse id

theorem Call.Succeeds.isAction {c : Call} (h : c.Succeeds) : c.IsAction := by
  cases c <;> trivial

theorem dispatch_stops (h : Dispatches env opts acc n m w e) (hs : e.call.Succeeds) :
    ∃ w', dispatch env opts acc n m w = .ok .stopSearching w' ∧ w'.calls = w.calls ++ [e] := by
  cases h with
  | cycleOpen hc =>
    obtain ⟨x, hx⟩ := Option.isSome_iff_exists.1 hc
    have hok : env.cmdCycleOpen acc w.spadat n = true := hs
    refine ⟨{ w with calls := w.calls ++ [_] }, ?_, rfl⟩
    simp [dispatch, hx, hok, bind, EStateM.bind, look, emit, pure, EStateM.pure]
  | command hcyc hcmd hx ht hb =>
    refine ⟨{ w with calls := w.calls ++ [_] }, ?_, rfl⟩
    simp [dispatch, processCmdMsg, hcyc, hcmd, hx, ht, hb, bind, EStateM.bind, look, emit, pure,
      EStateM.pure]
  | request hcyc hne ht hacl =>
    unfold AclAdmits at hacl
    split_ifs at hacl with hsvc
    · obtain ⟨hsa, l, hl, rfl⟩ := hacl
      refine ⟨{ w with
        spadat := { w.spadat with serviceDataList := some l }
        calls := w.calls ++ [_] }, ?_, rfl⟩
      simp [dispatch, requestAccess, hcyc, hne, ht, hsvc, hsa, hl, bind, EStateM.bind, look, emit,
        gate, need, change, pure, EStateM.pure]
    · obtain ⟨hpa, rfl⟩ := hacl
      refine ⟨{ w with calls := w.calls ++ [_] }, ?_, rfl⟩
      simp [dispatch, requestAccess, hcyc, hne, ht, hsvc, hpa, bind, EStateM.bind, look, emit,
        gate, pure, EStateM.pure]

theorem processSpaData_stops (h : Records (processSpaData env opts clock pkt n rd age) w e)
    (hs : e.call.Succeeds) : ∃ w', processSpaData env opts clock pkt n rd age w =
      .ok .stopSearching w' ∧ w'.calls.getLast? = some e := by
  obtain ⟨-, -, t, ctx, w₂, hd, h, hrun⟩ :=
    processSpaData_decrypted h fun hc => Call.not_isAction_of_isAttempt hc hs.isAction
  obtain ⟨m, w₃, hv, h⟩ := Records.bind validate_passive (fun hp => hp hs.isAction) h
  obtain ⟨w', hdisp, hcalls⟩ := dispatch_stops (dispatch_records h hs.isAction) hs
  exact ⟨w', by rw [hrun, bind_apply_of_ok hv, hdisp], by simp [hcalls]⟩

theorem accLoop_stops {w : Work σ} {accs : List AccStanza}
    (h : e ∈ (accLoop env opts clock pkt rd age n w accs).2.calls) (hne : e ∉ w.calls)
    (hs : e.call.Succeeds) :
    (accLoop env opts clock pkt rd age n w accs).2.calls.getLast? = some e := by
  induction accs generalizing n w with
  | nil => exact absurd h hne
  | cons acc rest ih =>
    cases hv : verdictOf (processSpaData env opts clock pkt (n + 1) rd age { w with acc := acc })
    all_goals simp only [accLoop, hv] at h ⊢
    · by_cases hr : e ∈ (workOf (processSpaData env opts clock pkt (n + 1) rd age
        { w with acc := acc })).calls
      · obtain ⟨w', hrun, -⟩ := processSpaData_stops ⟨hr, hne⟩ hs
        rw [hrun] at hv
        cases hv
      · exact ih h hr
    · obtain ⟨w', hrun, hlast⟩ := processSpaData_stops ⟨h, hne⟩ hs
      rwa [hrun]

/-- An action that took effect is the last call incoming_spa makes. -/
theorem incomingSpa_stops {s : Server σ} (he : e ∈ (incomingSpa env opts clock s).2)
    (hs : e.call.Succeeds) : (incomingSpa env opts clock s).2.getLast? = some e := by
  rcases incomingSpa_cases env opts clock s with ⟨hnil, -, -⟩ | ⟨pkt, rd, acc, age, -, -, -, -, heq⟩
  · simp [hnil] at he
  rw [heq] at he ⊢
  unfold searchStanzas at he ⊢
  dsimp only at he ⊢
  split_ifs at he ⊢
  · exact accLoop_stops he (List.not_mem_nil e) hs
  · obtain ⟨w', hrun, hlast⟩ := processSpaData_stops ⟨he, List.not_mem_nil e⟩ hs
    rwa [hrun]

theorem incomingSpa_stops_refServer :
    ∃ (env : Env (List String)) (opts : FkoSrvOptions) (clock : Clock) (s : Server (List String))
      (e : Event), e ∈ (incomingSpa env opts clock s).2 ∧ e.call.Succeeds ∧
      (incomingSpa env opts clock s).2.getLast? = some e := by
  obtain ⟨e, he, hs⟩ : ∃ e ∈ (incomingSpa (refEnv "k" refRequest) (refOpts "Y" false)
      (refClock 1762560000) (refServer [refStanza "k" ["tcp/22"]])).2, e.call.Succeeds := by
    set_option maxRecDepth 8000 in decide
  exact ⟨_, _, _, _, e, he, hs, incomingSpa_stops he hs⟩

end Fwknopd
