import Fwknopd.Reference
import Fwknopd.Search

/-! Stanza expiry over runs of the server. check_stanza_expiration (lines 350-372) flags a
stanza in the policy itself once a reading is past its ACCESS_EXPIRE time, and a flagged stanza
is turned away from then on, whatever the clock reads later. -/
namespace Fwknopd

variable {σ : Type} {env : Env σ} {opts : FkoSrvOptions} {clock : Clock} {pkt : SpaPktInfo}
  {n : Nat} {rd : Option String} {age : Int} {now : Int} {a a' : AccStanza}

/-- A stanza as the loader leaves it: a set expired flag comes with an expiry time. -/
def AccStanza.ExpiryOk (a : AccStanza) : Prop := a.expired = true → 0 < a.accessExpireTime

/-- What a turn may do to a stanza: nothing, or flag it once a reading passes its expiry. -/
def ExpiryStep (now : Int) (a a' : AccStanza) : Prop :=
  a' = a ∨ (a' = { a with expired := true } ∧ 0 < a.accessExpireTime ∧ a.expired = false ∧
    a.accessExpireTime < now)

theorem ExpiryStep.ok (h : ExpiryStep now a a') (ha : a.ExpiryOk) : a'.ExpiryOk := by
  rcases h with rfl | ⟨rfl, hpos, -, -⟩
  exacts [ha, fun _ => hpos]

theorem ExpiryStep.of_expired (h : ExpiryStep now a a') (ha : a.expired = true) : a' = a := by
  rcases h with h | ⟨-, -, hne, -⟩
  exacts [h, absurd ha (by simp [hne])]

/-- A stanza by its position in the classic list or its key in the SDP table. -/
inductive StanzaRef
  | pos (i : Nat)
  | key (k : CStr)

def Policy.stanza (p : Policy) : StanzaRef → Option AccStanza
  | .pos i => p.accStanzas[i]?
  | .key k => p.accStanzaHashTbl.lookup k

def stanzaRef (opts : FkoSrvOptions) (pkt : SpaPktInfo) (n : Nat) : StanzaRef :=
  if opts.is .disableSdpMode 'Y' then .pos (n - 1) else .key pkt.sdpIdStr

theorem Selected.stanza {p : Policy} {acc : AccStanza} (h : Selected opts p pkt acc n) :
    p.stanza (stanzaRef opts pkt n) = some acc := by
  unfold Selected at h
  unfold stanzaRef
  split_ifs at h ⊢ with hsdp
  · obtain ⟨i, hi, rfl⟩ := h
    simpa [Policy.stanza] using hi
  · obtain ⟨hsel, -⟩ := h
    unfold sdpIdCheck at hsel
    split_ifs at hsel
    exact hsel

section Step

def AccKept (w w' : Work σ) : Prop := w'.acc = w.acc

instance : IsRefl (Work σ) AccKept := ⟨fun _ => rfl⟩

instance : IsTrans (Work σ) AccKept := ⟨fun _ _ _ h₁ h₂ => h₂.trans h₁⟩

theorem Keeps.emit_accKept {c : Call} : Keeps AccKept (Fwknopd.emit (σ := σ) n c) := fun _ => rfl

theorem Keeps.change_accKept {f : Work σ → Work σ} (h : ∀ w, (f w).acc = w.acc) :
    Keeps AccKept (Fwknopd.change f) := h

theorem processSpaData_acc {w : Work σ} :
    (workOf (processSpaData env opts clock pkt n rd age w)).acc =
      if srcDstCheck env w.acc pkt then (checkStanzaExpiration w.acc (clock.expiry n)).2
      else w.acc := by
  unfold processSpaData
  rw [look_bind_apply]
  cases hsd : srcDstCheck env w.acc pkt
  · rfl
  · rw [gate_bind_apply rfl, change_bind_apply, if_pos rfl]
    refine Keeps.bind (Keeps.gate _ _) (fun _ => Keeps.bind
      (decrypt_keeps fun _ => Keeps.emit_accKept) fun ⟨_, _⟩ => Keeps.bind
      (validate_keeps (Keeps.change_accKept fun _ => rfl)
        (addReplayCache_keeps (Keeps.change_accKept fun _ => rfl) Keeps.emit_accKept)) fun _ =>
      dispatch_keeps (fun _ => Keeps.emit_accKept) (Keeps.change_accKept fun _ => rfl)) _

theorem processSpaData_expiryStep {w : Work σ} :
    ExpiryStep (clock.expiry n) w.acc (workOf (processSpaData env opts clock pkt n rd age w)).acc := by
  rw [processSpaData_acc]
  split_ifs
  · exact checkStanzaExpiration_snd
  · exact .inl rfl

end Step

section Run

variable {s : Server σ} {d : Datagram}

/-- One turn's change to the stanzas: an expiry step each, none added or removed. -/
def StanzasStep (clock : Clock) (p p' : Policy) : Prop :=
  ∀ r, Option.Rel (fun a a' => ∃ k, ExpiryStep (clock.expiry k) a a') (p.stanza r) (p'.stanza r)

theorem StanzasStep.refl {p : Policy} : StanzasStep clock p p := fun r => by
  cases p.stanza r
  exacts [.none, .some ⟨0, .inl rfl⟩]

theorem StanzasStep.of_some_left {p p' : Policy} (h : StanzasStep clock p p') {r : StanzaRef}
    (ha : p.stanza r = some a) : ∃ a' k, p'.stanza r = some a' ∧ ExpiryStep (clock.expiry k) a a' := by
  have hr := h r
  rw [ha] at hr
  generalize p'.stanza r = x at hr ⊢
  obtain ⟨⟨k, hk⟩⟩ := hr
  exact ⟨_, k, rfl, hk⟩

theorem StanzasStep.of_some_right {p p' : Policy} (h : StanzasStep clock p p') {r : StanzaRef}
    (ha' : p'.stanza r = some a') : ∃ a k, p.stanza r = some a ∧ ExpiryStep (clock.expiry k) a a' := by
  have hr := h r
  rw [ha'] at hr
  generalize p.stanza r = x at hr ⊢
  obtain ⟨⟨k, hk⟩⟩ := hr
  exact ⟨_, k, rfl, hk⟩

theorem forall₂_getElem? {α β : Type} {R : α → β → Prop} {l : List α} {l' : List β}
    (h : List.Forall₂ R l l') (i : Nat) : Option.Rel R l[i]? l'[i]? := by
  induction h generalizing i with
  | nil => exact .none
  | cons hr _ ih =>
    cases i with
    | zero => simpa using Option.Rel.some hr
    | succ i => simpa using ih i

theorem accLoop_stanzas {w : Work σ} {accs : List AccStanza} :
    List.Forall₂ (fun a a' => ∃ k, ExpiryStep (clock.expiry k) a a') accs
      (accLoop env opts clock pkt rd age n w accs).1 := by
  induction accs generalizing n w with
  | nil => exact .nil
  | cons acc rest ih =>
    have h : ExpiryStep (clock.expiry (n + 1)) acc (workOf (processSpaData env opts clock pkt
        (n + 1) rd age { w with acc := acc })).acc := processSpaData_expiryStep
    cases hv : verdictOf (processSpaData env opts clock pkt (n + 1) rd age { w with acc := acc })
    · simp only [accLoop, hv]
      exact .cons ⟨_, h⟩ ih
    · simp only [accLoop, hv]
      exact .cons ⟨_, h⟩ (List.forall₂_same.2 fun _ _ => ⟨0, .inl rfl⟩)

theorem serverStep_stanzas :
    StanzasStep clock s.policy (serverStep env opts s d clock).1.policy := by
  unfold serverStep
  cases receive env.toConsts s.slot d with
  | none => exact StanzasStep.refl
  | some slot =>
  dsimp only
  rcases incomingSpa_cases env opts clock { s with slot := slot } with ⟨-, hpol, -⟩ |
    ⟨pkt, rd, acc, age, -, -, -, hfound, heq⟩
  · rw [hpol]
    exact StanzasStep.refl
  rw [heq]
  unfold searchStanzas
  split_ifs at hfound ⊢ with hsdp
  · rintro (i | k)
    · exact forall₂_getElem? accLoop_stanzas i
    · exact StanzasStep.refl (.key k)
  · rintro (i | k)
    · exact StanzasStep.refl (.pos i)
    · simp only [Policy.stanza]
      unfold sdpIdCheck at hfound
      split_ifs at hfound
      by_cases hk : k = pkt.sdpIdStr
      · subst hk
        rw [hfound, AList.lookup_insert]
        exact .some ⟨0, processSpaData_expiryStep⟩
      · rw [AList.lookup_insert_ne hk]
        exact StanzasStep.refl (.key k)

/-- The loop from number `n` runs process_spa_data on position `i` from `w'`: every stanza
before it answered KEEP_SEARCHING. -/
inductive LoopReaches (env : Env σ) (opts : FkoSrvOptions) (clock : Clock) (pkt : SpaPktInfo)
    (rd : Option String) (age : Int) : Nat → Work σ → List AccStanza → Nat → Work σ → Prop
  | here {n w acc rest} : LoopReaches env opts clock pkt rd age n w (acc :: rest) 0 { w with acc := acc }
  | next {n w acc rest i w'} :
      verdictOf (processSpaData env opts clock pkt (n + 1) rd age { w with acc := acc }) =
        .keepSearching →
      LoopReaches env opts clock pkt rd age (n + 1)
        (workOf (processSpaData env opts clock pkt (n + 1) rd age { w with acc := acc })) rest i w' →
      LoopReaches env opts clock pkt rd age n w (acc :: rest) (i + 1) w'

theorem LoopReaches.acc {w w' : Work σ} {accs : List AccStanza} {i : Nat}
    (h : LoopReaches env opts clock pkt rd age n w accs i w') : accs[i]? = some w'.acc := by
  induction h with
  | here => exact List.getElem?_cons_zero
  | next _ _ ih => rwa [List.getElem?_cons_succ]

theorem LoopReaches.accLoop {w w' : Work σ} {accs : List AccStanza} {i : Nat}
    (h : LoopReaches env opts clock pkt rd age n w accs i w') :
    (accLoop env opts clock pkt rd age n w accs).1[i]? =
      some (workOf (processSpaData env opts clock pkt (n + i + 1) rd age w')).acc := by
  induction h with
  | @here n w acc rest =>
    cases hv : verdictOf (processSpaData env opts clock pkt (n + 1) rd age { w with acc := acc }) <;>
      simp only [Fwknopd.accLoop, hv, List.getElem?_cons_zero, Nat.add_zero]
  | @next n w acc rest i w' hv _ ih =>
    simp only [Fwknopd.accLoop, hv, List.getElem?_cons_succ, ih]
    rw [show n + 1 + i + 1 = n + (i + 1) + 1 by omega]

/-- The turn on `d` runs process_spa_data on stanza `r` as number `n` from `w`: in the classic
loop at position `i`, or on the stanza the SDP table gives. -/
inductive SearchReaches (env : Env σ) (opts : FkoSrvOptions) (s : Server σ) (d : Datagram)
    (c : Clock) : SpaPktInfo → StanzaRef → Nat → Work σ → Prop
  | classic {slot pkt rd age i w} : receive env.toConsts s.slot d = some slot →
      precheckPkt env opts slot = .ok pkt → replayCheck env opts s.store pkt = some rd →
      confPktAge env.toConsts opts = some age → opts.is .disableSdpMode 'Y' = true →
      srcCheck env s.policy.accStanzas pkt = true →
      LoopReaches env opts c pkt rd age 0 ⟨{}, initSpaData pkt, s.store, []⟩ s.policy.accStanzas i w →
      SearchReaches env opts s d c pkt (.pos i) (i + 1) w
  | sdp {slot pkt rd age acc} : receive env.toConsts s.slot d = some slot →
      precheckPkt env opts slot = .ok pkt → replayCheck env opts s.store pkt = some rd →
      confPktAge env.toConsts opts = some age → opts.is .disableSdpMode 'Y' = false →
      sdpIdCheck s.policy.accStanzaHashTbl pkt = some acc →
      SearchReaches env opts s d c pkt (.key pkt.sdpIdStr) 0 ⟨acc, initSpaData pkt, s.store, []⟩

theorem SearchReaches.stanza {r : StanzaRef} {w : Work σ} {c : Clock}
    (h : SearchReaches env opts s d c pkt r n w) : s.policy.stanza r = some w.acc := by
  cases h with
  | classic _ _ _ _ _ _ hloop => exact hloop.acc
  | sdp _ _ _ _ _ hfound =>
    unfold sdpIdCheck at hfound
    split_ifs at hfound
    exact hfound

theorem SearchReaches.stored {r : StanzaRef} {w : Work σ} {c : Clock}
    (h : SearchReaches env opts s d c pkt r n w) : ∃ rd age,
      (serverStep env opts s d c).1.policy.stanza r =
        some (workOf (processSpaData env opts c pkt n rd age w)).acc := by
  cases h with
  | @classic _ _ rd age _ _ hr hpkt hrd hage hsdp hsrc hloop =>
    refine ⟨rd, age, ?_⟩
    rw [serverStep_of_receive hr,
      incomingSpa_of_found (s := { s with slot := _ }) {} hpkt hrd hage (by simp [hsdp, hsrc])]
    simp only [searchStanzas, hsdp, if_true, Policy.stanza]
    rw [hloop.accLoop, Nat.zero_add]
  | @sdp _ _ rd age acc hr hpkt hrd hage hsdp hfound =>
    refine ⟨rd, age, ?_⟩
    rw [serverStep_of_receive hr,
      incomingSpa_of_found (s := { s with slot := _ }) acc hpkt hrd hage (by simp [hsdp, hfound])]
    simp [searchStanzas, hsdp, Policy.stanza]

def Policy.ExpiryOk (p : Policy) : Prop := ∀ r a, p.stanza r = some a → a.ExpiryOk

theorem serverRun_expiryOk {ds : List (Datagram × Clock)} (h : s.policy.ExpiryOk) :
    (serverRun env opts s ds).1.policy.ExpiryOk := by
  induction ds generalizing s with
  | nil => exact h
  | cons dc ds ih =>
    refine ih fun r a' ha' => ?_
    obtain ⟨a, k, ha, hstep⟩ := serverStep_stanzas.of_some_right ha'
    exact hstep.ok (h r a ha)

theorem serverRun_expired {ds : List (Datagram × Clock)} {r : StanzaRef}
    (ha : s.policy.stanza r = some a) (hx : a.expired = true) :
    (serverRun env opts s ds).1.policy.stanza r = some a := by
  induction ds generalizing s with
  | nil => exact ha
  | cons dc ds ih =>
    obtain ⟨a', k, ha', hstep⟩ := serverStep_stanzas.of_some_left ha
    exact ih (hstep.of_expired hx ▸ ha')

def Reachable (env : Env σ) (opts : FkoSrvOptions) (s s' : Server σ) : Prop :=
  ∃ ds, (serverRun env opts s ds).1 = s'

/-- Stanza expiry over runs, in both modes: a turn only flags stanzas past their expiry, a
reached stanza past it is left flagged in the policy, actions are for live stanzas, and a
flagged stanza stays and never acts again. -/
theorem expiry_permanent {s s₁ : Server σ} (hinit : s.policy.ExpiryOk)
    (h₁ : Reachable env opts s s₁) (d : Datagram) (c : Clock) :
    StanzasStep c s₁.policy (serverStep env opts s₁ d c).1.policy ∧
    (∀ pkt r n (w : Work σ), SearchReaches env opts s₁ d c pkt r n w →
      s₁.policy.stanza r = some w.acc ∧
      (srcDstCheck env w.acc pkt = true → 0 < w.acc.accessExpireTime →
        w.acc.accessExpireTime < c.expiry n →
        (serverStep env opts s₁ d c).1.policy.stanza r = some { w.acc with expired := true })) ∧
    (∀ e ∈ (serverStep env opts s₁ d c).2, e.call.IsAction →
      ∃ pkt, turnPkt env opts s₁ d = some pkt ∧
        s₁.policy.stanza (stanzaRef opts pkt e.stanzaNum) = some e.acc ∧
        (0 < e.acc.accessExpireTime →
          e.acc.expired = false ∧ c.expiry e.stanzaNum ≤ e.acc.accessExpireTime)) ∧
    (∀ r a, s₁.policy.stanza r = some a → a.expired = true → ∀ s₂, Reachable env opts s₁ s₂ →
      s₂.policy.stanza r = some a ∧
      ∀ d' c', ∀ e ∈ (serverStep env opts s₂ d' c').2, e.call.IsAction →
        ∀ pkt, turnPkt env opts s₂ d' = some pkt → stanzaRef opts pkt e.stanzaNum ≠ r) := by
  obtain ⟨ds, rfl⟩ := h₁
  refine ⟨serverStep_stanzas, fun pkt r n w hreach => ⟨hreach.stanza, fun hsd hpos hlate => ?_⟩,
    fun e he ha => ?_, ?_⟩
  · obtain ⟨rd, age, h⟩ := hreach.stored
    rw [h, processSpaData_acc, if_pos hsd, checkStanzaExpiration_snd_of_late hpos hlate]
  · obtain ⟨pkt, rd, age, hpkt, -, -, hsel, hadm, -⟩ := serverStep_admitted he ha
    exact ⟨pkt, hpkt, hsel.stanza, hadm.live⟩
  · rintro r a ha hx _ ⟨ds', rfl⟩
    refine ⟨serverRun_expired ha hx, fun d' c' e he hact pkt hpkt hr => ?_⟩
    obtain ⟨pkt', rd, age, hpkt', -, -, hsel, hadm, -⟩ := serverStep_admitted he hact
    obtain rfl : pkt' = pkt := Option.some.inj (hpkt'.symm.trans hpkt)
    have hacc : e.acc = a := by
      have h := hsel.stanza
      rw [hr, serverRun_expired ha hx] at h
      exact (Option.some.inj h).symm
    subst hacc
    have hok : (serverRun env opts (serverRun env opts s ds).1 ds').1.policy.ExpiryOk :=
      serverRun_expiryOk (serverRun_expiryOk hinit)
    have hpos := hok r _ (serverRun_expired ha hx) hx
    simp [(hadm.live hpos).1] at hx

theorem refServer_expiryOk {accs : List AccStanza} (h : ∀ a ∈ accs, a.expired = false) :
    (refServer accs).policy.ExpiryOk := by
  rintro (i | k) a ha hx
  · simp [h a (List.getElem?_mem ha)] at hx
  · simp [refServer, Policy.stanza] at ha

def expiringStanza : AccStanza := { refStanza "k" ["tcp/22"] with accessExpireTime := 1 }

theorem expiry_permanent_refServer :
    ∃ (env : Env (List String)) (opts : FkoSrvOptions) (s s₁ : Server (List String))
      (d : Datagram) (c : Clock), s.policy.ExpiryOk ∧ Reachable env opts s s₁ ∧
    StanzasStep c s₁.policy (serverStep env opts s₁ d c).1.policy ∧
    (∀ pkt r n (w : Work (List String)), SearchReaches env opts s₁ d c pkt r n w →
      s₁.policy.stanza r = some w.acc ∧
      (srcDstCheck env w.acc pkt = true → 0 < w.acc.accessExpireTime →
        w.acc.accessExpireTime < c.expiry n →
        (serverStep env opts s₁ d c).1.policy.stanza r = some { w.acc with expired := true })) ∧
    (∀ e ∈ (serverStep env opts s₁ d c).2, e.call.IsAction →
      ∃ pkt, turnPkt env opts s₁ d = some pkt ∧
        s₁.policy.stanza (stanzaRef opts pkt e.stanzaNum) = some e.acc ∧
        (0 < e.acc.accessExpireTime →
          e.acc.expired = false ∧ c.expiry e.stanzaNum ≤ e.acc.accessExpireTime)) ∧
    (∀ r a, s₁.policy.stanza r = some a → a.expired = true → ∀ s₂, Reachable env opts s₁ s₂ →
      s₂.policy.stanza r = some a ∧
      ∀ d' c', ∀ e ∈ (serverStep env opts s₂ d' c').2, e.call.IsAction →
        ∀ pkt, turnPkt env opts s₂ d' = some pkt → stanzaRef opts pkt e.stanzaNum ≠ r) :=
  have h₀ : (refServer [expiringStanza]).policy.ExpiryOk :=
    refServer_expiryOk fun a ha => by simp_all [expiringStanza, refStanza]
  have h₁ : Reachable (refEnv "k" refRequest) (refOpts "Y" false) (refServer [expiringStanza]) _ :=
    ⟨[(⟨refPayload, 16909060⟩, refClock 1762560000)], rfl⟩
  ⟨refEnv "k" refRequest, refOpts "Y" false, _, _, ⟨refPayload, 16909060⟩, refClock 1762560000, h₀,
    h₁, expiry_permanent h₀ h₁ _ _⟩

end Run

end Fwknopd
