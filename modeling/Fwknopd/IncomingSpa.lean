import Fwknopd.ProcessSpaData

/-! incoming_spa (lines 1275-1400 of incoming_spa.c) and the part of run_udp_server that hands
it datagrams (udp_server.c, lines 216-251). src_check only spares work src_dst_check would do. -/
namespace Fwknopd

variable {σ : Type}

def verdictOf : EStateM.Result Verdict (Work σ) Verdict → Verdict
  | .ok v _ => v
  | .error v _ => v

/-- The stanza loop of lines 1350-1373 from stanza number `n`: the stanzas as their calls
left them, and the last state. -/
def accLoop (env : Env σ) (opts : FkoSrvOptions) (clock : Clock) (pkt : SpaPktInfo)
    (rawDigest : Option String) (confPktAge : Int) : Nat → Work σ → List AccStanza →
    List AccStanza × Work σ
  | _, w, [] => ([], w)
  | n, w, acc :: rest =>
    let r := processSpaData env opts clock pkt (n + 1) rawDigest confPktAge { w with acc := acc }
    match verdictOf r with
    | .keepSearching =>
      let l := accLoop env opts clock pkt rawDigest confPktAge (n + 1) (workOf r) rest
      ((workOf r).acc :: l.1, l.2)
    | .stopSearching => ((workOf r).acc :: rest, workOf r)

/-- The configured MAX_SPA_PACKET_AGE when packet aging is on, read as lines 1329-1338 do. -/
def confPktAge (k : Consts) (opts : FkoSrvOptions) : Option Int :=
  if opts.is .enableSpaPacketAging 'Y' then
    strtolWrapper (opts.config .maxSpaPacketAge) 0 k.rchkMaxSpaPacketAge
  else some 0

/-- What outlives one packet: the access stanzas, the replay store and the packet slot. -/
structure Server (σ : Type) where
  policy : Policy
  store : σ
  slot : SpaPktInfo

/-- The spa_data_t incoming_spa starts from: the two addresses and no service list. -/
def initSpaData (pkt : SpaPktInfo) : SpaData :=
  { pktSourceIp := ipv4Str pkt.packetSrcIp, pktDestinationIp := ipv4Str pkt.packetDstIp }

/-- The stanza search of lines 1345-1378: the list loop, or the one SDP stanza. -/
def searchStanzas (env : Env σ) (opts : FkoSrvOptions) (clock : Clock) (s : Server σ)
    (pkt : SpaPktInfo) (rawDigest : Option String) (age : Int) (acc : AccStanza) :
    Server σ × List Event :=
  let w : Work σ := ⟨acc, initSpaData pkt, s.store, []⟩
  if opts.is .disableSdpMode 'Y' then
    let l := accLoop env opts clock pkt rawDigest age 0 w s.policy.accStanzas
    ({ policy := { s.policy with accStanzas := l.1 }, store := l.2.store, slot := pkt }, l.2.calls)
  else
    let w := workOf (processSpaData env opts clock pkt 0 rawDigest age w)
    ({ policy := { s.policy with accStanzaHashTbl := s.policy.accStanzaHashTbl.insert pkt.sdpIdStr w.acc },
        store := w.store, slot := pkt }, w.calls)

/-- incoming_spa on the packet in the slot: the new server state and its calls, in order. -/
def incomingSpa (env : Env σ) (opts : FkoSrvOptions) (clock : Clock) (s : Server σ) :
    Server σ × List Event :=
  match precheckPkt env opts s.slot with
  | .error slot => ({ s with slot := slot }, [])
  | .ok pkt =>
    let s := { s with slot := pkt }
    match replayCheck env opts s.store pkt with
    | none => (s, [])
    | some rawDigest =>
      let found : Option AccStanza :=
        if opts.is .disableSdpMode 'Y' then
          if srcCheck env s.policy.accStanzas pkt then some {} else none
        else sdpIdCheck s.policy.accStanzaHashTbl pkt
      match found, confPktAge env.toConsts opts with
      | some acc, some age => searchStanzas env opts clock s pkt rawDigest age acc
      | _, _ => (s, [])

/-- incoming_spa drops the packet without a call, or runs the search on the stanza found. -/
theorem incomingSpa_cases (env : Env σ) (opts : FkoSrvOptions) (clock : Clock) (s : Server σ) :
    ((incomingSpa env opts clock s).2 = [] ∧ (incomingSpa env opts clock s).1.policy = s.policy ∧
      (incomingSpa env opts clock s).1.store = s.store) ∨
    ∃ pkt rd acc age, precheckPkt env opts s.slot = .ok pkt ∧
      replayCheck env opts s.store pkt = some rd ∧ confPktAge env.toConsts opts = some age ∧
      (if opts.is .disableSdpMode 'Y' then
          if srcCheck env s.policy.accStanzas pkt then some {} else none
        else sdpIdCheck s.policy.accStanzaHashTbl pkt) = some acc ∧
      incomingSpa env opts clock s = searchStanzas env opts clock s pkt rd age acc := by
  unfold incomingSpa
  cases precheckPkt env opts s.slot with
  | error slot => exact .inl ⟨rfl, rfl, rfl⟩
  | ok pkt =>
  dsimp only
  cases hrd : replayCheck env opts s.store pkt with
  | none => exact .inl ⟨rfl, rfl, rfl⟩
  | some rd =>
  dsimp only
  split
  · rename_i acc age hfound hage
    exact .inr ⟨pkt, rd, acc, age, rfl, hrd, hage, hfound, rfl⟩
  · exact .inl ⟨rfl, rfl, rfl⟩

theorem incomingSpa_of_found {env : Env σ} {opts : FkoSrvOptions} {clock : Clock} {s : Server σ}
    {pkt : SpaPktInfo} {rd : Option String} (acc : AccStanza) {age : Int}
    (hpkt : precheckPkt env opts s.slot = .ok pkt) (hrd : replayCheck env opts s.store pkt = some rd)
    (hage : confPktAge env.toConsts opts = some age)
    (hfound : (if opts.is .disableSdpMode 'Y' then
        if srcCheck env s.policy.accStanzas pkt then some {} else none
      else sdpIdCheck s.policy.accStanzaHashTbl pkt) = some acc) :
    incomingSpa env opts clock s = searchStanzas env opts clock s pkt rd age acc := by
  unfold incomingSpa
  rw [hpkt]
  dsimp only
  rw [hrd]
  dsimp only
  rw [hfound, hage]
  rfl

section SourceCheck

variable {env : Env σ} {opts : FkoSrvOptions} {clock : Clock} {pkt : SpaPktInfo}
  {rd : Option String} {age : Int}

/-- incoming_spa without the src_check call of lines 1320-1324. -/
def incomingSpaWithoutSrcCheck (env : Env σ) (opts : FkoSrvOptions) (clock : Clock)
    (s : Server σ) : Server σ × List Event :=
  match precheckPkt env opts s.slot with
  | .error slot => ({ s with slot := slot }, [])
  | .ok pkt =>
    let s := { s with slot := pkt }
    match replayCheck env opts s.store pkt with
    | none => (s, [])
    | some rawDigest =>
      let found : Option AccStanza :=
        if opts.is .disableSdpMode 'Y' then some {}
        else sdpIdCheck s.policy.accStanzaHashTbl pkt
      match found, confPktAge env.toConsts opts with
      | some acc, some age => searchStanzas env opts clock s pkt rawDigest age acc
      | _, _ => (s, [])

theorem processSpaData_of_source_miss {n : Nat} {w : Work σ}
    (h : env.compareAddrList w.acc.sourceList pkt.packetSrcIp = false) :
    processSpaData env opts clock pkt n rd age w = .error .keepSearching w := by
  have hsd : srcDstCheck env w.acc pkt = false := by simp [srcDstCheck, h]
  show (gate (srcDstCheck env w.acc pkt) .keepSearching >>= _) w = _
  rw [hsd]
  rfl

theorem accLoop_of_source_miss {n : Nat} {w : Work σ} {accs : List AccStanza}
    (h : ∀ acc ∈ accs, env.compareAddrList acc.sourceList pkt.packetSrcIp = false) :
    (accLoop env opts clock pkt rd age n w accs).1 = accs ∧
      (accLoop env opts clock pkt rd age n w accs).2.store = w.store ∧
      (accLoop env opts clock pkt rd age n w accs).2.calls = w.calls := by
  induction accs generalizing n w with
  | nil => exact ⟨rfl, rfl, rfl⟩
  | cons acc rest ih =>
    have hrun : processSpaData env opts clock pkt (n + 1) rd age { w with acc := acc } =
        .error .keepSearching { w with acc := acc } :=
      processSpaData_of_source_miss (h acc (List.mem_cons_self _ _))
    obtain ⟨h₁, h₂, h₃⟩ := ih (n := n + 1) (w := { w with acc := acc })
      fun a ha => h a (List.mem_cons_of_mem _ ha)
    simp only [accLoop, hrun, verdictOf, workOf]
    exact ⟨congrArg (acc :: ·) h₁, h₂, h₃⟩

/-- src_check is an optimisation: without it incoming_spa does the same on every input. -/
theorem incomingSpa_without_srcCheck (env : Env σ) (opts : FkoSrvOptions) (clock : Clock)
    (s : Server σ) : incomingSpaWithoutSrcCheck env opts clock s = incomingSpa env opts clock s := by
  unfold incomingSpaWithoutSrcCheck incomingSpa
  cases precheckPkt env opts s.slot with
  | error slot => rfl
  | ok pkt =>
  dsimp only
  cases replayCheck env opts s.store pkt with
  | none => rfl
  | some rd =>
  dsimp only
  by_cases hsdp : opts.is .disableSdpMode 'Y' = true
  · by_cases hsrc : srcCheck env s.policy.accStanzas pkt = true
    · cases confPktAge env.toConsts opts <;> simp only [hsdp, hsrc, if_true]
    simp only [hsdp, hsrc, if_true, if_false]
    cases confPktAge env.toConsts opts with
    | none => rfl
    | some age =>
    have hmiss : ∀ acc ∈ s.policy.accStanzas,
        env.compareAddrList acc.sourceList pkt.packetSrcIp = false := by
      simpa [srcCheck] using hsrc
    obtain ⟨h₁, h₂, h₃⟩ :=
      accLoop_of_source_miss hmiss (n := 0) (w := ⟨{}, initSpaData pkt, s.store, []⟩)
    simp only [searchStanzas, hsdp, if_true]
    rw [h₁, h₂, h₃]
    rfl
  · cases sdpIdCheck s.policy.accStanzaHashTbl pkt <;> cases confPktAge env.toConsts opts <;>
      simp only [hsdp, Bool.false_eq_true, if_false]

end SourceCheck

/-- A datagram as recvfrom delivers it: its bytes and the sender's address. -/
structure Datagram where
  msg : List Char
  srcIp : Nat

/-- Lines 220-244: at most MAX_SPA_PACKET_LEN bytes, copied up to a NUL, destination
htonl(INADDR_ANY) = 0 (lines 124 and 241), sdp_id cleared. -/
def receive (k : Consts) (slot : SpaPktInfo) (d : Datagram) : Option SpaPktInfo :=
  let m := d.msg.take k.maxSpaPacketLen
  if 0 < m.length ∧ m.length ≤ k.maxSpaPacketLen then
    some { slot with
      packetData := m.takeWhile (fun c => c != nul)
      packetDataLen := m.length
      packetSrcIp := d.srcIp
      packetDstIp := 0
      sdpId := 0 }
  else none

/-- One turn of run_udp_server's loop on a datagram. -/
def serverStep (env : Env σ) (opts : FkoSrvOptions) (s : Server σ) (d : Datagram) (clock : Clock) :
    Server σ × List Event :=
  match receive env.toConsts s.slot d with
  | none => (s, [])
  | some slot => incomingSpa env opts clock { s with slot := slot }

theorem serverStep_of_receive {env : Env σ} {opts : FkoSrvOptions} {s : Server σ} {d : Datagram}
    {clock : Clock} {slot : SpaPktInfo} (hr : receive env.toConsts s.slot d = some slot) :
    serverStep env opts s d clock = incomingSpa env opts clock { s with slot := slot } := by
  rw [serverStep, hr]

/-- A run over datagrams: the final state and each turn's calls. -/
def serverRun (env : Env σ) (opts : FkoSrvOptions) :
    Server σ → List (Datagram × Clock) → Server σ × List (List Event)
  | s, [] => (s, [])
  | s, (d, clock) :: ds =>
    let r := serverStep env opts s d clock
    let rest := serverRun env opts r.1 ds
    (rest.1, r.2 :: rest.2)

end Fwknopd
