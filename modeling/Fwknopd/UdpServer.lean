import Fwknopd.IncomingSpa
import Fwknopd.Reference

/-! run_udp_server (udp_server.c, lines 53-269): the three settings it parses, then the loop of
lines 147-265 around incoming_spa, which is the server run over the datagrams of its schedule
and besides it counts passes for the full firewall check and recvfrom returns for the limit. -/
namespace Fwknopd

variable {σ : Type}

/-- What select and recvfrom give a pass past the signal check (lines 190-247): EINTR, another
select failure, a timeout or no ready socket, a recvfrom failure, or a datagram and the clock
readings of its turn. -/
inductive Wake
  | interrupted
  | selectFailed
  | idle
  | recvFailed
  | datagram (d : Datagram) (clock : Clock)

/-- One pass as the world decides it: a terminating signal (lines 149-155), or a wake. -/
inductive Pass
  | stop
  | wake (w : Wake)

/-- What recvfrom returns on waking: a datagram or a failure. -/
def Wake.isRecv : Wake → Bool
  | .recvFailed => true
  | .datagram _ _ => true
  | _ => false

def Pass.isWake : Pass → Bool
  | .wake _ => true
  | .stop => false

def Pass.isRecv : Pass → Bool
  | .wake w => w.isRecv
  | .stop => false

def Pass.datagram? : Pass → Option (Datagram × Clock)
  | .wake (.datagram d clock) => some (d, clock)
  | _ => none

/-- The calls of the loop: the maintenance, what recvfrom returned, and incoming_spa's calls. -/
inductive UdpCall
  | checkFirewallRules (chkRmAll : Bool)
  | cmdCycleClose
  | recvFailed
  | recvfrom (d : Datagram) (clock : Clock)
  | spa (e : Event)

/-- The fields of fko_srv_options_t run_udp_server reads besides those incoming_spa reads. -/
structure UdpServOptions where
  udpservPort : String
  udpservSelectTimeout : String
  rulesCheckThreshold : String
  enableFw : Bool
  packetCtrLimit : Nat

/-- The header macros run_udp_server reads (fwknopd_common.h, not under src/). -/
structure UdpConsts where
  maxPort : Int
  rchkMaxUdpservSelectTimeout : Int
  rchkMaxRulesCheckThreshold : Int

/-- What the loop changes: the server state, check_rules_ctr and packet_ctr. -/
structure UdpState (σ : Type) where
  srv : Server σ
  checkRulesCtr : Nat
  packetCtr : Nat

/-- A run's state and calls, and `some rv` once the loop broke with run_udp_server's `rv`. -/
structure UdpRun (σ : Type) where
  st : UdpState σ
  calls : List UdpCall
  exit : Option Int

/-- Lines 163-171: count the pass; a multiple of a positive threshold asks for a full check
and restarts the count. -/
def rulesCheck (threshold ctr : Nat) : Nat × Bool :=
  if threshold > 0 then
    if (ctr + 1) % threshold = 0 then (0, true) else (ctr + 1, false)
  else (ctr, false)

theorem rulesCheck_snd (threshold ctr : Nat) :
    (rulesCheck threshold ctr).2 = decide (0 < threshold ∧ (ctr + 1) % threshold = 0) := by
  unfold rulesCheck
  split_ifs <;> simp_all

theorem rulesCheck_fst_mod {threshold : Nat} (ctr : Nat) (h : 0 < threshold) :
    (rulesCheck threshold ctr).1 % threshold = (ctr + 1) % threshold := by
  rw [rulesCheck, if_pos h]
  split_ifs with hz
  · rw [hz, Nat.zero_mod]
  · rfl

theorem rulesCheck_fst_lt {threshold ctr : Nat} (h : ctr < threshold) :
    (rulesCheck threshold ctr).1 < threshold := by
  rw [rulesCheck, if_pos (Nat.zero_lt_of_lt h)]
  split_ifs with hz
  · exact Nat.zero_lt_of_lt h
  · have : ctr + 1 ≠ threshold := fun he => hz (he ▸ Nat.mod_self threshold)
    exact Nat.lt_of_le_of_ne h this

/-- Lines 157-179: outside test mode, check_firewall_rules when the firewall is on, then
cmd_cycle_close. -/
def maintain (opts : FkoSrvOptions) (uo : UdpServOptions) (threshold ctr : Nat) :
    Nat × List UdpCall :=
  if opts.test then (ctr, [])
  else if uo.enableFw then
    let r := rulesCheck threshold ctr
    (r.1, [.checkFirewallRules r.2, .cmdCycleClose])
  else (ctr, [.cmdCycleClose])

/-- Lines 251-263: count what recvfrom returned, and break at a nonzero packet_ctr_limit. -/
def countPacket (uo : UdpServOptions) (st : UdpState σ) (calls : List UdpCall) : UdpRun σ :=
  let st := { st with packetCtr := st.packetCtr + 1 }
  ⟨st, calls, if uo.packetCtrLimit ≠ 0 ∧ uo.packetCtrLimit ≤ st.packetCtr then some 1 else none⟩

/-- Lines 190-263 past the maintenance: select's outcome, recvfrom, serverStep and the count. -/
def handleWake (env : Env σ) (opts : FkoSrvOptions) (uo : UdpServOptions) (st : UdpState σ) :
    Wake → UdpRun σ
  | .interrupted => ⟨st, [], none⟩
  | .selectFailed => ⟨st, [], some (-1)⟩
  | .idle => ⟨st, [], none⟩
  | .recvFailed => countPacket uo st [.recvFailed]
  | .datagram d clock =>
    let r := serverStep env opts st.srv d clock
    countPacket uo { st with srv := r.1 } (.recvfrom d clock :: r.2.map UdpCall.spa)

/-- One pass of the loop of lines 147-265. -/
def udpPass (env : Env σ) (opts : FkoSrvOptions) (uo : UdpServOptions) (threshold : Nat)
    (st : UdpState σ) : Pass → UdpRun σ
  | .stop => ⟨st, [], some 1⟩
  | .wake w =>
    let m := maintain opts uo threshold st.checkRulesCtr
    let r := handleWake env opts uo { st with checkRulesCtr := m.1 } w
    ⟨r.st, m.2 ++ r.calls, r.exit⟩

/-- The loop of lines 147-265 over a schedule, until a pass breaks; `exit = none` when the
schedule ends first. -/
def udpLoop (env : Env σ) (opts : FkoSrvOptions) (uo : UdpServOptions) (threshold : Nat) :
    UdpState σ → List Pass → UdpRun σ
  | st, [] => ⟨st, [], none⟩
  | st, p :: ps =>
    let r := udpPass env opts uo threshold st p
    match r.exit with
    | some _ => r
    | none =>
      let r' := udpLoop env opts uo threshold r.st ps
      ⟨r'.st, r.calls ++ r'.calls, r'.exit⟩

/-- The passes of a schedule the loop runs: up to the first that breaks. -/
def passesRun (env : Env σ) (opts : FkoSrvOptions) (uo : UdpServOptions) (threshold : Nat) :
    UdpState σ → List Pass → List Pass
  | _, [] => []
  | st, p :: ps =>
    if (udpPass env opts uo threshold st p).exit.isSome then [p]
    else p :: passesRun env opts uo threshold (udpPass env opts uo threshold st p).st ps

/-- How run_udp_server ends: an early return, the clean_exit of line 86, or the loop. -/
inductive UdpServerEnd (σ : Type)
  | returned (rv : Int)
  | exited
  | looped (r : UdpRun σ)

/-- run_udp_server (lines 53-269): the three settings, the socket setup (`sockOk`), then the
loop with the parsed threshold. -/
def runUdpServer (env : Env σ) (opts : FkoSrvOptions) (uo : UdpServOptions) (k : UdpConsts)
    (sockOk : Bool) (st : UdpState σ) (ps : List Pass) : UdpServerEnd σ :=
  match strtolWrapper uo.udpservPort 1 k.maxPort with
  | none => .returned (-1)
  | some _ =>
    match strtolWrapper uo.udpservSelectTimeout 1 k.rchkMaxUdpservSelectTimeout with
    | none => .returned (-1)
    | some _ =>
      match strtolWrapper uo.rulesCheckThreshold 0 k.rchkMaxRulesCheckThreshold with
      | none => .exited
      | some t => if sockOk then .looped (udpLoop env opts uo t.toNat st ps) else .returned (-1)

theorem runUdpServer_looped {env : Env σ} {opts : FkoSrvOptions} {uo : UdpServOptions}
    {k : UdpConsts} {sockOk : Bool} {st : UdpState σ} {ps : List Pass} {r : UdpRun σ} :
    runUdpServer env opts uo k sockOk st ps = .looped r ↔
      (strtolWrapper uo.udpservPort 1 k.maxPort).isSome ∧
      (strtolWrapper uo.udpservSelectTimeout 1 k.rchkMaxUdpservSelectTimeout).isSome ∧
      sockOk = true ∧ ∃ t, strtolWrapper uo.rulesCheckThreshold 0 k.rchkMaxRulesCheckThreshold = some t ∧
        r = udpLoop env opts uo t.toNat st ps := by
  unfold runUdpServer
  cases strtolWrapper uo.udpservPort 1 k.maxPort <;>
    cases strtolWrapper uo.udpservSelectTimeout 1 k.rchkMaxUdpservSelectTimeout <;>
    cases strtolWrapper uo.rulesCheckThreshold 0 k.rchkMaxRulesCheckThreshold <;>
    cases sockOk <;> simp [eq_comm]

section Passes

variable {env : Env σ} {opts : FkoSrvOptions} {uo : UdpServOptions} {threshold : Nat}
  {st : UdpState σ} {p : Pass} {ps qs : List Pass} {rv : Int}

theorem udpLoop_cons_of_exit (h : (udpPass env opts uo threshold st p).exit = some rv) :
    udpLoop env opts uo threshold st (p :: ps) = udpPass env opts uo threshold st p := by
  rw [udpLoop, h]

theorem udpLoop_cons_of_running (h : (udpPass env opts uo threshold st p).exit = none) :
    udpLoop env opts uo threshold st (p :: ps) =
      ⟨(udpLoop env opts uo threshold (udpPass env opts uo threshold st p).st ps).st,
        (udpPass env opts uo threshold st p).calls ++
          (udpLoop env opts uo threshold (udpPass env opts uo threshold st p).st ps).calls,
        (udpLoop env opts uo threshold (udpPass env opts uo threshold st p).st ps).exit⟩ := by
  rw [udpLoop, h]

theorem passesRun_cons_of_exit (h : (udpPass env opts uo threshold st p).exit = some rv) :
    passesRun env opts uo threshold st (p :: ps) = [p] := by
  rw [passesRun, h]
  rfl

theorem passesRun_cons_of_running (h : (udpPass env opts uo threshold st p).exit = none) :
    passesRun env opts uo threshold st (p :: ps) =
      p :: passesRun env opts uo threshold (udpPass env opts uo threshold st p).st ps := by
  rw [passesRun, h]
  rfl

/-- The loop runs a prefix of the schedule, and all of it while it does not break. -/
theorem passesRun_prefix :
    passesRun env opts uo threshold st ps <+: ps ∧
      ((udpLoop env opts uo threshold st ps).exit = none →
        passesRun env opts uo threshold st ps = ps) := by
  induction ps generalizing st with
  | nil => exact ⟨List.prefix_refl _, fun _ => rfl⟩
  | cons p ps ih =>
    cases hp : (udpPass env opts uo threshold st p).exit with
    | some _ =>
      rw [passesRun_cons_of_exit hp, udpLoop_cons_of_exit hp, hp]
      exact ⟨List.prefix_cons_inj p |>.2 List.nil_prefix, fun h => nomatch h⟩
    | none =>
      obtain ⟨ih₁, ih₂⟩ := @ih (udpPass env opts uo threshold st p).st
      rw [passesRun_cons_of_running hp, udpLoop_cons_of_running hp]
      exact ⟨List.prefix_cons_inj p |>.2 ih₁, fun h => by rw [ih₂ h]⟩

theorem udpLoop_append_of_running (h : (udpLoop env opts uo threshold st ps).exit = none) :
    udpLoop env opts uo threshold st (ps ++ qs) =
      ⟨(udpLoop env opts uo threshold (udpLoop env opts uo threshold st ps).st qs).st,
        (udpLoop env opts uo threshold st ps).calls ++
          (udpLoop env opts uo threshold (udpLoop env opts uo threshold st ps).st qs).calls,
        (udpLoop env opts uo threshold (udpLoop env opts uo threshold st ps).st qs).exit⟩ := by
  induction ps generalizing st with
  | nil => rfl
  | cons p ps ih =>
    cases hp : (udpPass env opts uo threshold st p).exit with
    | some _ =>
      rw [udpLoop_cons_of_exit hp] at h
      simp [hp] at h
    | none =>
      rw [udpLoop_cons_of_running hp] at h ⊢
      rw [List.cons_append, udpLoop_cons_of_running hp, ih h, List.append_assoc]

end Passes

section Refinement

def UdpCall.spaEvent : UdpCall → Option Event
  | .spa e => some e
  | _ => none

theorem serverRun_append (env : Env σ) (opts : FkoSrvOptions) (s : Server σ)
    (ds ds' : List (Datagram × Clock)) :
    serverRun env opts s (ds ++ ds') =
      ((serverRun env opts (serverRun env opts s ds).1 ds').1,
        (serverRun env opts s ds).2 ++ (serverRun env opts (serverRun env opts s ds).1 ds').2) := by
  induction ds generalizing s with
  | nil => rfl
  | cons dc ds ih => simp only [List.cons_append, serverRun, List.append_eq, ih]

@[simp] theorem UdpCall.spaEvent_spa (l : List Event) :
    l.filterMap (UdpCall.spaEvent ∘ UdpCall.spa) = l :=
  List.filterMap_some l

theorem maintain_quiet (opts : FkoSrvOptions) (uo : UdpServOptions) (threshold ctr : Nat) :
    (maintain opts uo threshold ctr).2.filterMap UdpCall.spaEvent = [] := by
  unfold maintain
  split_ifs <;> rfl

theorem udpPass_refines (env : Env σ) (opts : FkoSrvOptions) (uo : UdpServOptions)
    (threshold : Nat) (st : UdpState σ) (p : Pass) :
    (udpPass env opts uo threshold st p).st.srv =
        (serverRun env opts st.srv ([p].filterMap Pass.datagram?)).1 ∧
      (udpPass env opts uo threshold st p).calls.filterMap UdpCall.spaEvent =
        (serverRun env opts st.srv ([p].filterMap Pass.datagram?)).2.flatten := by
  cases p with
  | stop => exact ⟨rfl, rfl⟩
  | wake w =>
    have hm := maintain_quiet opts uo threshold st.checkRulesCtr
    cases w <;>
      simp [udpPass, handleWake, countPacket, hm, serverRun, Pass.datagram?, UdpCall.spaEvent]

/-- The loop refines the server run: on every schedule, its server state and incoming_spa's
calls are those of serverRun over the datagrams of the passes it runs. -/
theorem udpLoop_refines (env : Env σ) (opts : FkoSrvOptions) (uo : UdpServOptions)
    (threshold : Nat) (st : UdpState σ) (ps : List Pass) :
    (udpLoop env opts uo threshold st ps).st.srv = (serverRun env opts st.srv
        ((passesRun env opts uo threshold st ps).filterMap Pass.datagram?)).1 ∧
      (udpLoop env opts uo threshold st ps).calls.filterMap UdpCall.spaEvent = (serverRun env opts
        st.srv ((passesRun env opts uo threshold st ps).filterMap Pass.datagram?)).2.flatten := by
  induction ps generalizing st with
  | nil => exact ⟨rfl, rfl⟩
  | cons p ps ih =>
    cases hp : (udpPass env opts uo threshold st p).exit with
    | some _ =>
      rw [udpLoop_cons_of_exit hp, passesRun_cons_of_exit hp]
      exact udpPass_refines env opts uo threshold st p
    | none =>
      obtain ⟨h₁, h₂⟩ := udpPass_refines env opts uo threshold st p
      obtain ⟨h₃, h₄⟩ := ih (udpPass env opts uo threshold st p).st
      rw [udpLoop_cons_of_running hp, passesRun_cons_of_running hp, ← List.singleton_append]
      simp only [List.filterMap_append, serverRun_append, ← h₁, h₂, h₃, h₄, List.flatten_append,
        and_self]

end Refinement

section PacketLimit

/-- Port 62201, a 500 ms select timeout, a full check every 20th pass, the firewall on. -/
def refUdpOptions (limit : Nat) : UdpServOptions := ⟨"62201", "500000", "20", true, limit⟩

end PacketLimit

section Maintenance

def UdpCall.isMaintenance : UdpCall → Bool
  | .checkFirewallRules _ => true
  | .cmdCycleClose => true
  | _ => false

/-- The maintenance calls of pass `i` past the signal check from check_rules_ctr `c`: a full
check exactly when `c + i + 1` is a multiple of a positive threshold. -/
def maintenanceAt (opts : FkoSrvOptions) (uo : UdpServOptions) (threshold c i : Nat) :
    List UdpCall :=
  if opts.test then []
  else if uo.enableFw then
    [.checkFirewallRules (decide (0 < threshold ∧ (c + i + 1) % threshold = 0)), .cmdCycleClose]
  else [.cmdCycleClose]

theorem maintain_eq (opts : FkoSrvOptions) (uo : UdpServOptions) (threshold c : Nat) :
    (maintain opts uo threshold c).2 = maintenanceAt opts uo threshold c 0 := by
  unfold maintain maintenanceAt
  split_ifs <;> simp only [rulesCheck_snd, Nat.add_zero]

theorem maintenanceAt_succ (opts : FkoSrvOptions) (uo : UdpServOptions) (threshold c i : Nat) :
    maintenanceAt opts uo threshold (maintain opts uo threshold c).1 i =
      maintenanceAt opts uo threshold c (i + 1) := by
  unfold maintenanceAt maintain
  split_ifs
  · rfl
  · simp only [List.cons.injEq, UdpCall.checkFirewallRules.injEq, decide_eq_decide, and_true]
    exact and_congr_right fun h => by
      rw [Nat.add_assoc, Nat.add_mod, rulesCheck_fst_mod c h, ← Nat.add_mod, Nat.add_right_comm]
  · rfl

theorem maintenanceAt_filter (opts : FkoSrvOptions) (uo : UdpServOptions) (threshold c i : Nat) :
    (maintenanceAt opts uo threshold c i).filter UdpCall.isMaintenance =
      maintenanceAt opts uo threshold c i := by
  unfold maintenanceAt
  split_ifs <;> rfl

@[simp] theorem UdpCall.isMaintenance_spa (l : List Event) :
    (l.map UdpCall.spa).filter UdpCall.isMaintenance = [] :=
  List.filter_eq_nil_iff.2 fun _ h => by obtain ⟨_, -, rfl⟩ := List.mem_map.1 h; simp [isMaintenance]

theorem udpPass_maintenance (env : Env σ) (opts : FkoSrvOptions) (uo : UdpServOptions)
    (threshold : Nat) (st : UdpState σ) (w : Wake) :
    (udpPass env opts uo threshold st (.wake w)).calls.filter UdpCall.isMaintenance =
        maintenanceAt opts uo threshold st.checkRulesCtr 0 ∧
      (udpPass env opts uo threshold st (.wake w)).st.checkRulesCtr =
        (maintain opts uo threshold st.checkRulesCtr).1 := by
  refine ⟨?_, ?_⟩ <;> cases w <;>
    simp only [udpPass, handleWake, countPacket, List.filter_append, maintain_eq,
      maintenanceAt_filter, UdpCall.isMaintenance_spa, List.filter_cons, List.filter_nil,
      UdpCall.isMaintenance, Bool.false_eq_true, if_false, List.append_nil]

/-- The maintenance calls of every run: the `i`th pass past the signal check makes those of
`maintenanceAt`, whatever select and recvfrom return. -/
theorem udpLoop_maintenance (env : Env σ) (opts : FkoSrvOptions) (uo : UdpServOptions)
    (threshold : Nat) (st : UdpState σ) (ps : List Pass) :
    (udpLoop env opts uo threshold st ps).calls.filter UdpCall.isMaintenance =
      (List.range ((passesRun env opts uo threshold st ps).countP Pass.isWake)).flatMap
        (maintenanceAt opts uo threshold st.checkRulesCtr) := by
  induction ps generalizing st with
  | nil => rfl
  | cons p ps ih =>
    cases p with
    | stop =>
      have hx : (udpPass env opts uo threshold st .stop).exit = some 1 := rfl
      rw [udpLoop_cons_of_exit hx, passesRun_cons_of_exit hx]
      rfl
    | wake w =>
      obtain ⟨hf, hc⟩ := udpPass_maintenance env opts uo threshold st w
      cases hp : (udpPass env opts uo threshold st (.wake w)).exit with
      | some _ =>
        rw [udpLoop_cons_of_exit hp, passesRun_cons_of_exit hp, hf]
        exact (List.flatMap_singleton _ _).symm
      | none =>
        have hsucc : maintenanceAt opts uo threshold (maintain opts uo threshold st.checkRulesCtr).1 =
            fun i => maintenanceAt opts uo threshold st.checkRulesCtr (i + 1) :=
          funext (maintenanceAt_succ opts uo threshold st.checkRulesCtr)
        rw [udpLoop_cons_of_running hp, passesRun_cons_of_running hp]
        simp only [List.filter_append, hf, ih, hc, hsucc, List.countP_cons, Pass.isWake, if_true,
          List.range_succ_eq_map, List.flatMap_cons, List.flatMap_map]

end Maintenance

section RulesCounter

def UdpCall.isFirewallCheck : UdpCall → Bool
  | .checkFirewallRules _ => true
  | _ => false

theorem maintain_rulesCtr (opts : FkoSrvOptions) (uo : UdpServOptions) (threshold c : Nat) :
    (threshold = 0 → (maintain opts uo threshold c).1 = c) ∧
      (c < threshold → (maintain opts uo threshold c).1 =
        (c + (maintain opts uo threshold c).2.countP UdpCall.isFirewallCheck) % threshold) := by
  unfold maintain
  split_ifs
  · exact ⟨fun _ => rfl, fun h => (Nat.mod_eq_of_lt h).symm⟩
  · refine ⟨fun h => by subst h; rfl, fun h => ?_⟩
    exact (Nat.mod_eq_of_lt (rulesCheck_fst_lt h)).symm.trans (rulesCheck_fst_mod c (by omega))
  · exact ⟨fun _ => rfl, fun h => (Nat.mod_eq_of_lt h).symm⟩

theorem handleWake_rulesCtr (env : Env σ) (opts : FkoSrvOptions) (uo : UdpServOptions)
    (st : UdpState σ) (w : Wake) :
    (handleWake env opts uo st w).st.checkRulesCtr = st.checkRulesCtr ∧
      (handleWake env opts uo st w).calls.countP UdpCall.isFirewallCheck = 0 := by
  cases w <;> simp [handleWake, countPacket, UdpCall.isFirewallCheck, List.countP_eq_zero]

theorem udpPass_rulesCtr (env : Env σ) (opts : FkoSrvOptions) (uo : UdpServOptions)
    (threshold : Nat) (st : UdpState σ) (p : Pass) :
    (threshold = 0 → (udpPass env opts uo threshold st p).st.checkRulesCtr = st.checkRulesCtr) ∧
      (st.checkRulesCtr < threshold → (udpPass env opts uo threshold st p).st.checkRulesCtr =
        (st.checkRulesCtr + (udpPass env opts uo threshold st p).calls.countP
          UdpCall.isFirewallCheck) % threshold) := by
  cases p with
  | stop => exact ⟨fun _ => rfl, fun h => (Nat.mod_eq_of_lt h).symm⟩
  | wake w =>
    obtain ⟨hm₁, hm₂⟩ := maintain_rulesCtr opts uo threshold st.checkRulesCtr
    obtain ⟨hw₁, hw₂⟩ := handleWake_rulesCtr env opts uo
      { st with checkRulesCtr := (maintain opts uo threshold st.checkRulesCtr).1 } w
    simp only [udpPass, List.countP_append, hw₁, hw₂, Nat.add_zero]
    exact ⟨hm₁, hm₂⟩

/-- check_rules_ctr over every run: fixed under a threshold of 0, and otherwise below the
threshold and moved by the check_firewall_rules calls modulo it. -/
theorem udpLoop_rules_ctr (env : Env σ) (opts : FkoSrvOptions) (uo : UdpServOptions)
    (threshold : Nat) (st : UdpState σ) (ps : List Pass) :
    (threshold = 0 →
        (udpLoop env opts uo threshold st ps).st.checkRulesCtr = st.checkRulesCtr) ∧
      (st.checkRulesCtr < threshold →
        (udpLoop env opts uo threshold st ps).st.checkRulesCtr < threshold ∧
        (udpLoop env opts uo threshold st ps).st.checkRulesCtr = (st.checkRulesCtr +
          (udpLoop env opts uo threshold st ps).calls.countP UdpCall.isFirewallCheck) % threshold) := by
  induction ps generalizing st with
  | nil => exact ⟨fun _ => rfl, fun h => ⟨h, (Nat.mod_eq_of_lt h).symm⟩⟩
  | cons p ps ih =>
    obtain ⟨hp₁, hp₂⟩ := udpPass_rulesCtr env opts uo threshold st p
    cases hp : (udpPass env opts uo threshold st p).exit with
    | some _ =>
      rw [udpLoop_cons_of_exit hp]
      refine ⟨hp₁, fun h => ⟨?_, hp₂ h⟩⟩
      rw [hp₂ h]
      exact Nat.mod_lt _ (by omega)
    | none =>
      obtain ⟨ih₁, ih₂⟩ := ih (udpPass env opts uo threshold st p).st
      rw [udpLoop_cons_of_running hp]
      refine ⟨fun h => (ih₁ h).trans (hp₁ h), fun h => ?_⟩
      have hc : (udpPass env opts uo threshold st p).st.checkRulesCtr < threshold := by
        rw [hp₂ h]
        exact Nat.mod_lt _ (by omega)
      obtain ⟨hlt, heq⟩ := ih₂ hc
      refine ⟨hlt, ?_⟩
      rw [heq, hp₂ h, Nat.mod_add_mod, List.countP_append, Nat.add_assoc]

theorem udpLoop_rules_ctr_refServer :
    (udpLoop (refEnv "k" refRequest) (refOpts "Y" false) (refUdpOptions 0) 0 ⟨refServer [], 7, 0⟩
        [.wake .idle, .wake .interrupted]).st.checkRulesCtr = 7 ∧
      (⟨refServer [], 0, 0⟩ : UdpState (List String)).checkRulesCtr < 2 ∧
      (udpLoop (refEnv "k" refRequest) (refOpts "Y" false) (refUdpOptions 0) 2 ⟨refServer [], 0, 0⟩
        [.wake .idle, .wake .recvFailed, .wake .idle]).st.checkRulesCtr < 2 :=
  ⟨(udpLoop_rules_ctr (refEnv "k" refRequest) (refOpts "Y" false) (refUdpOptions 0) 0
      ⟨refServer [], 7, 0⟩ _).1 rfl,
    by decide,
    ((udpLoop_rules_ctr (refEnv "k" refRequest) (refOpts "Y" false) (refUdpOptions 0) 2
      ⟨refServer [], 0, 0⟩ _).2 (by decide)).1⟩

end RulesCounter

section Exit

theorem udpPass_exit (env : Env σ) (opts : FkoSrvOptions) (uo : UdpServOptions)
    (threshold : Nat) (st : UdpState σ) (p : Pass) (rv : Int) :
    (udpPass env opts uo threshold st p).exit = some rv ↔
      (p = .stop ∧ rv = 1) ∨ (p = .wake .selectFailed ∧ rv = -1) ∨
        ∃ w, p = .wake w ∧ w.isRecv ∧ uo.packetCtrLimit ≠ 0 ∧
          uo.packetCtrLimit ≤ st.packetCtr + 1 ∧ rv = 1 := by
  rcases p with _ | (_ | _ | _ | _ | _) <;>
    simp only [udpPass, handleWake, countPacket, Wake.isRecv, Option.some.injEq, reduceCtorEq,
      Pass.wake.injEq, Option.ite_none_right_eq_some, exists_eq_left', exists_false, true_and,
      false_and, false_or, or_false, and_assoc, @eq_comm _ rv]

theorem udpLoop_exit_pass (env : Env σ) (opts : FkoSrvOptions) (uo : UdpServOptions)
    (threshold : Nat) (st : UdpState σ) (ps : List Pass) (rv : Int) :
    (udpLoop env opts uo threshold st ps).exit = some rv ↔
      ∃ pre p post, ps = pre ++ p :: post ∧ (udpLoop env opts uo threshold st pre).exit = none ∧
        udpLoop env opts uo threshold st ps = udpLoop env opts uo threshold st (pre ++ [p]) ∧
        (udpPass env opts uo threshold (udpLoop env opts uo threshold st pre).st p).exit =
          some rv := by
  constructor
  · intro h
    induction ps generalizing st with
    | nil => cases h
    | cons p ps ih =>
      cases hp : (udpPass env opts uo threshold st p).exit with
      | some rv' =>
        rw [udpLoop_cons_of_exit hp] at h
        exact ⟨[], p, ps, rfl, rfl, by rw [udpLoop_cons_of_exit hp, List.nil_append,
          udpLoop_cons_of_exit hp], h⟩
      | none =>
        rw [udpLoop_cons_of_running hp] at h
        obtain ⟨pre, p', post, rfl, hpre, heq, hpass⟩ := ih _ h
        refine ⟨p :: pre, p', post, rfl, ?_⟩
        simp only [List.cons_append, udpLoop_cons_of_running hp, heq, true_and]
        exact ⟨hpre, hpass⟩
  · rintro ⟨pre, p, post, rfl, hpre, -, hpass⟩
    rw [udpLoop_append_of_running hpre, udpLoop_cons_of_exit hpass]
    exact hpass

/-- The loop ends at the first pass with a stop signal, a select failure other than EINTR, or a
recvfrom that reaches a nonzero limit, returning -1 or 1; nothing after it runs. -/
theorem udpLoop_exit (env : Env σ) (opts : FkoSrvOptions) (uo : UdpServOptions)
    (threshold : Nat) (st : UdpState σ) (ps : List Pass) (rv : Int) :
    (udpLoop env opts uo threshold st ps).exit = some rv ↔
      ∃ pre p post, ps = pre ++ p :: post ∧ (udpLoop env opts uo threshold st pre).exit = none ∧
        udpLoop env opts uo threshold st ps = udpLoop env opts uo threshold st (pre ++ [p]) ∧
        ((p = .stop ∧ rv = 1) ∨ (p = .wake .selectFailed ∧ rv = -1) ∨
          ∃ w, p = .wake w ∧ w.isRecv ∧ uo.packetCtrLimit ≠ 0 ∧
            uo.packetCtrLimit ≤ (udpLoop env opts uo threshold st pre).st.packetCtr + 1 ∧
            rv = 1) := by
  simp only [udpLoop_exit_pass, udpPass_exit]

end Exit

end Fwknopd
