import Fwknopd.Stages
import Fwknopd.IncomingSpa

/-! The stanza search of incoming_spa: every call it records was recorded by one
process_spa_data call, on a stanza the search selected, and later calls only follow it. -/
namespace Fwknopd

variable {σ : Type} {env : Env σ} {opts : FkoSrvOptions} {clock : Clock} {pkt : SpaPktInfo}
  {rd : Option String} {age : Int} {e : Event}

theorem processSpaData_adds {n : Nat} :
    Keeps (Adds fun _ => True) (processSpaData env opts clock pkt n rd age) :=
  processSpaData_keeps (Keeps.change fun _ => rfl) ((decrypt_logs.adds).mono fun _ _ => trivial)
    (validate_passive.mono fun _ _ => trivial) (dispatch_adds fun _ => trivial)

theorem processSpaData_prefix {n : Nat} {w : Work σ} :
    w.calls <+: (workOf (processSpaData env opts clock pkt n rd age w)).calls :=
  let ⟨new, hnew, _⟩ := processSpaData_adds w
  ⟨new, hnew.symm⟩

theorem accLoop_prefix {n : Nat} {w : Work σ} {accs : List AccStanza} :
    w.calls <+: (accLoop env opts clock pkt rd age n w accs).2.calls := by
  induction accs generalizing n w with
  | nil => exact List.prefix_refl _
  | cons acc rest ih =>
    have hp : ({ w with acc := acc } : Work σ).calls <+: (workOf (processSpaData env opts clock
      pkt (n + 1) rd age { w with acc := acc })).calls := processSpaData_prefix
    cases hv : verdictOf (processSpaData env opts clock pkt (n + 1) rd age { w with acc := acc })
    · simpa only [accLoop, hv] using hp.trans ih
    · simpa only [accLoop, hv] using hp

theorem accLoop_records {n : Nat} {w : Work σ} {accs : List AccStanza}
    (h : e ∈ (accLoop env opts clock pkt rd age n w accs).2.calls) (hne : e ∉ w.calls) :
    ∃ i acc, ∃ w' : Work σ, accs[i]? = some acc ∧ w'.acc = acc ∧
      Records (processSpaData env opts clock pkt (n + i + 1) rd age) w' e ∧
      (workOf (processSpaData env opts clock pkt (n + i + 1) rd age w')).calls <+:
        (accLoop env opts clock pkt rd age n w accs).2.calls := by
  induction accs generalizing n w with
  | nil => exact absurd h hne
  | cons acc rest ih =>
    cases hv : verdictOf (processSpaData env opts clock pkt (n + 1) rd age { w with acc := acc })
    all_goals simp only [accLoop, hv] at h ⊢
    · by_cases hr : e ∈ (workOf (processSpaData env opts clock pkt (n + 1) rd age
        { w with acc := acc })).calls
      · exact ⟨0, acc, _, by simp, rfl, ⟨hr, hne⟩, accLoop_prefix⟩
      · obtain ⟨i, acc', w', hi, hacc, hrec, hpre⟩ := ih h hr
        refine ⟨i + 1, acc', w', by simpa using hi, hacc, ?_, ?_⟩ <;>
          rwa [show n + (i + 1) + 1 = n + 1 + i + 1 by omega]
    · exact ⟨0, acc, _, by simp, rfl, ⟨h, hne⟩, List.prefix_refl _⟩

/-- The search runs process_spa_data on `acc` as number `n`: position `n - 1` of the list, or
stanza 0 of the SDP table. -/
def Selected (opts : FkoSrvOptions) (p : Policy) (pkt : SpaPktInfo) (acc : AccStanza)
    (n : Nat) : Prop :=
  if opts.is .disableSdpMode 'Y' = true then ∃ i, p.accStanzas[i]? = some acc ∧ n = i + 1
  else sdpIdCheck p.accStanzaHashTbl pkt = some acc ∧ n = 0

theorem incomingSpa_records {s : Server σ} (h : e ∈ (incomingSpa env opts clock s).2) :
    ∃ pkt rd age acc n, ∃ w : Work σ, precheckPkt env opts s.slot = .ok pkt ∧
      replayCheck env opts s.store pkt = some rd ∧ confPktAge env.toConsts opts = some age ∧
      Selected opts s.policy pkt acc n ∧ w.acc = acc ∧
      Records (processSpaData env opts clock pkt n rd age) w e ∧
      (workOf (processSpaData env opts clock pkt n rd age w)).calls <+:
        (incomingSpa env opts clock s).2 := by
  rcases incomingSpa_cases env opts clock s with ⟨hnil, -, -⟩ |
    ⟨pkt, rd, acc, age, hpkt, hrd, hage, hfound, heq⟩
  · simp [hnil] at h
  rw [heq] at h ⊢
  unfold searchStanzas at h ⊢
  split_ifs at hfound h ⊢ with hsdp
  · obtain ⟨i, acc', w, hi, hacc, hrec, hpre⟩ := accLoop_records h (List.not_mem_nil e)
    refine ⟨pkt, rd, age, acc', 0 + i + 1, w, hpkt, hrd, hage, ?_, hacc, hrec, hpre⟩
    simp only [Selected, hsdp, if_true]
    exact ⟨i, hi, by omega⟩
  · exact ⟨pkt, rd, age, acc, 0, _, hpkt, hrd, hage, by simp [Selected, hsdp, hfound], rfl,
      ⟨h, List.not_mem_nil e⟩, List.prefix_refl _⟩

/-- An action incoming_spa records: checked, selected, admitted, after the decryption and
commit. -/
theorem incomingSpa_action {s : Server σ} (he : e ∈ (incomingSpa env opts clock s).2)
    (ha : e.call.IsAction) :
    ∃ pkt rd age, precheckPkt env opts s.slot = .ok pkt ∧
      replayCheck env opts s.store pkt = some rd ∧ confPktAge env.toConsts opts = some age ∧
      Selected opts s.policy pkt e.acc e.stanzaNum ∧
      Admitted env opts clock pkt e.stanzaNum age e.acc e ∧
      ∃ eDec, eDec.stanzaNum = e.stanzaNum ∧ eDec.acc = e.acc ∧ eDec.IsDecryption ∧
        [eDec, e].Sublist (incomingSpa env opts clock s).2 ∧
        ∀ d, rd = some d → opts.test = false → opts.is .enableDigestPersistence 'Y' = true →
          ∃ sd, [eDec, ⟨e.stanzaNum, e.acc, sd, .addReplay d true⟩, e].Sublist
            (incomingSpa env opts clock s).2 := by
  obtain ⟨pkt, rd, age, acc, n, w, hpkt, hrd, hage, hsel, rfl, hrec, hpre⟩ := incomingSpa_records he
  obtain ⟨rfl, hacc, hadm, eDec, hn, heacc, hdec, hsub, hcommit⟩ := processSpaData_records hrec ha
  rw [← hacc] at hadm hsel heacc
  refine ⟨pkt, rd, age, hpkt, hrd, hage, hsel, hadm, eDec, hn, heacc, hdec, hsub.trans hpre.sublist,
    fun d hd ht hp => ?_⟩
  obtain ⟨sd, hsd⟩ := hcommit d hd ht hp
  exact ⟨sd, hacc ▸ hsd.trans hpre.sublist⟩

/-- The packet incoming_spa works on when `s` receives `d`. -/
def turnPkt (env : Env σ) (opts : FkoSrvOptions) (s : Server σ) (d : Datagram) :
    Option SpaPktInfo :=
  (receive env.toConsts s.slot d).bind fun slot => (precheckPkt env opts slot).toOption

theorem serverStep_admitted {s : Server σ} {d : Datagram}
    (he : e ∈ (serverStep env opts s d clock).2) (ha : e.call.IsAction) :
    ∃ pkt rd age, turnPkt env opts s d = some pkt ∧
      replayCheck env opts s.store pkt = some rd ∧ confPktAge env.toConsts opts = some age ∧
      Selected opts s.policy pkt e.acc e.stanzaNum ∧
      Admitted env opts clock pkt e.stanzaNum age e.acc e ∧
      ∃ eDec, eDec.stanzaNum = e.stanzaNum ∧ eDec.acc = e.acc ∧ eDec.IsDecryption ∧
        [eDec, e].Sublist (serverStep env opts s d clock).2 ∧
        ∀ g, rd = some g → opts.test = false → opts.is .enableDigestPersistence 'Y' = true →
          ∃ sd, [eDec, ⟨e.stanzaNum, e.acc, sd, .addReplay g true⟩, e].Sublist
            (serverStep env opts s d clock).2 := by
  unfold serverStep at he ⊢
  cases hr : receive env.toConsts s.slot d with
  | none => simp [hr] at he
  | some slot =>
  simp only [hr] at he ⊢
  obtain ⟨pkt, rd, age, hpkt, hrest⟩ := incomingSpa_action he ha
  exact ⟨pkt, rd, age, by simp [turnPkt, hr, hpkt, Except.toOption], hrest⟩

end Fwknopd
