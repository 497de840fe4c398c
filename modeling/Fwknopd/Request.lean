import Fwknopd.Reference
import Fwknopd.Search

/-! What an action carries: its address, its timeout and a fresh timestamp. check_src_access
(lines 826-845) tests one spelling of "0.0.0.0"; check_pkt_age (lines 327-348) is exact only
while the distance fits in an int. -/
namespace Fwknopd

variable {σ : Type} {env : Env σ} {opts : FkoSrvOptions} {clock : Clock} {e : Event}

/-- "00.0.0.0" passes REQUIRE_SOURCE_ADDRESS and is opened for as written. -/
theorem zero_spelling_opens_required_source :
    isValidIpv4Addr "00.0.0.0".data = true ∧ ipv4Value "00.0.0.0".data = some 0 ∧
      ∃ e ∈ (incomingSpa (refEnv "k" (refCtx .access "00.0.0.0,tcp/22" 1762560000))
        (refOpts "Y" false) (refClock 1762560000)
        (refServer [{ refStanza "k" ["tcp/22"] with requireSourceAddress := true }])).2,
        e.call = .processSpaRequest e.spadat ∧ e.acc.requireSourceAddress = true ∧
          e.spadat.useSrcIp = "00.0.0.0".data := by
  set_option maxRecDepth 8000 in decide

theorem processSpaData_timeout {pkt : SpaPktInfo} {n : Nat} {rd : Option String} {age : Int}
    {w : Work σ} (h : Records (processSpaData env opts clock pkt n rd age) w e)
    (ha : e.call.IsAction) : setTimeout env.toConsts e.acc e.spadat = e.spadat := by
  rw [(processSpaData_stamps h).2]
  obtain ⟨-, -, t, ctx, w₂, -, h, -⟩ :=
    processSpaData_decrypted h fun hc => Call.not_isAction_of_isAttempt hc ha
  obtain ⟨m, w₃, hv, h⟩ := Records.bind validate_passive (fun hp => hp ha) h
  obtain ⟨-, -, -, -, -, hset⟩ := validate_ok hv
  rcases (dispatch_records h ha).spadat with hsd | ⟨l, hsd⟩ <;> rw [hsd]
  · exact hset
  · simpa [setTimeout] using congrArg SpaData.fwAccessTimeout hset

/-- Every action carries set_timeout's timeout, positive while the default is. -/
theorem action_fw_timeout {s : Server σ} (he : e ∈ (incomingSpa env opts clock s).2)
    (ha : e.call.IsAction) :
    e.spadat.fwAccessTimeout = (if e.spadat.clientTimeout > 0 then (e.spadat.clientTimeout : Int)
      else if e.acc.fwAccessTimeout > 0 then e.acc.fwAccessTimeout else env.defFwAccessTimeout) ∧
    (0 < env.defFwAccessTimeout → 0 < e.spadat.fwAccessTimeout) := by
  obtain ⟨pkt, rd, age, acc, n, w, -, -, -, -, -, hrec, -⟩ := incomingSpa_records he
  have h := congrArg SpaData.fwAccessTimeout (processSpaData_timeout hrec ha)
  simp only [setTimeout] at h
  refine ⟨h.symm, fun hdef => ?_⟩
  rw [← h]
  split_ifs <;> omega

theorem action_fw_timeout_refServer :
    ∃ (env : Env (List String)) (opts : FkoSrvOptions) (clock : Clock)
      (s : Server (List String)) (e : Event),
      e ∈ (incomingSpa env opts clock s).2 ∧ e.call.IsAction ∧
      e.spadat.fwAccessTimeout = (if e.spadat.clientTimeout > 0 then (e.spadat.clientTimeout : Int)
        else if e.acc.fwAccessTimeout > 0 then e.acc.fwAccessTimeout else env.defFwAccessTimeout) ∧
      (0 < env.defFwAccessTimeout → 0 < e.spadat.fwAccessTimeout) :=
  let ⟨e, he, ha, _⟩ := refServer_acts
  ⟨_, _, _, _, e, he, ha, action_fw_timeout he ha⟩

theorem wrap64_of_natAbs_lt {x : Int} (h : x.natAbs < 2 ^ 63) : wrap64 x = x := by
  unfold wrap64
  rw [Int.bmod_def]
  split <;> omega

theorem wrap32_of_natAbs_lt {x : Int} (h : x.natAbs < 2 ^ 31) : wrap32 x = x := by
  unfold wrap32
  rw [Int.bmod_def]
  split <;> omega

/-- Under 2^31 seconds away, check_pkt_age accepts exactly the timestamps within the age. -/
theorem checkPktAge_exact {sd : SpaData} {now age : Int}
    (hon : opts.is .enableSpaPacketAging 'Y' = true) (hd : (now - sd.timestamp).natAbs < 2 ^ 31) :
    checkPktAge opts sd now age = decide (((now - sd.timestamp).natAbs : Int) ≤ age) := by
  have h64 : wrap64 (now - sd.timestamp) = now - sd.timestamp := wrap64_of_natAbs_lt (by omega)
  have hlabs : labs (now - sd.timestamp) = (now - sd.timestamp).natAbs :=
    wrap64_of_natAbs_lt (by rw [Int.natAbs_ofNat]; omega)
  have h32 : wrap32 ((now - sd.timestamp).natAbs : Int) = (now - sd.timestamp).natAbs :=
    wrap32_of_natAbs_lt (by rw [Int.natAbs_ofNat]; exact hd)
  simp only [checkPktAge, hon, if_true, h64, hlabs, h32, gt_iff_lt, ← decide_not, not_lt]

theorem checkPktAge_exact_refOpts :
    (refOpts "Y" false).is .enableSpaPacketAging 'Y' = true ∧
      ((1762560000 : Int) - 1762559900).natAbs < 2 ^ 31 ∧
      checkPktAge (refOpts "Y" false)
          { pktSourceIp := [], pktDestinationIp := [], timestamp := 1762559900 } 1762560000 120 =
        decide ((((1762560000 : Int) - 1762559900).natAbs : Int) ≤ 120) :=
  ⟨by decide, by decide, checkPktAge_exact (by decide) (by decide)⟩

/-- With aging on, an action's timestamp is within the age or 2^31 seconds or more away. -/
theorem action_timestamp_fresh {s : Server σ} (he : e ∈ (incomingSpa env opts clock s).2)
    (ha : e.call.IsAction) (hon : opts.is .enableSpaPacketAging 'Y' = true)
    (hd : (clock.age e.stanzaNum - e.spadat.timestamp).natAbs < 2 ^ 31) :
    ∃ age, confPktAge env.toConsts opts = some age ∧
      ((clock.age e.stanzaNum - e.spadat.timestamp).natAbs : Int) ≤ age := by
  obtain ⟨pkt, rd, age, -, -, hage, -, hadm, -⟩ := incomingSpa_action he ha
  obtain ⟨ctx, m, w, -, -, hval, hdisp⟩ := hadm.checked
  have hts : e.spadat.timestamp = w.spadat.timestamp := by
    rcases hdisp.spadat with h | ⟨l, h⟩ <;> rw [h]
  rw [hts] at hd ⊢
  have hfresh := hval.fresh
  rw [checkPktAge_exact hon hd] at hfresh
  exact ⟨age, hage, of_decide_eq_true hfresh⟩

theorem action_timestamp_fresh_refServer :
    ∃ (env : Env (List String)) (opts : FkoSrvOptions) (clock : Clock)
      (s : Server (List String)) (e : Event),
      e ∈ (incomingSpa env opts clock s).2 ∧ e.call.IsAction ∧
      opts.is .enableSpaPacketAging 'Y' = true ∧
      (clock.age e.stanzaNum - e.spadat.timestamp).natAbs < 2 ^ 31 ∧
      ∃ age, confPktAge env.toConsts opts = some age ∧
        ((clock.age e.stanzaNum - e.spadat.timestamp).natAbs : Int) ≤ age :=
  let ⟨e, he, ha, hts⟩ := refServer_acts
  have hd : ((refClock 1762560000).age e.stanzaNum - e.spadat.timestamp).natAbs < 2 ^ 31 := by
    simp [refClock, hts]
  ⟨_, _, _, _, e, he, ha, by decide, hd, action_timestamp_fresh he ha (by decide) hd⟩

/-- A packet stamped 2^32 seconds ahead opens the firewall: its int distance is 0. -/
theorem stale_packet_opens :
    120 < ((1762560000 : Int) - (1762560000 + 2 ^ 32)).natAbs ∧
      ∃ e ∈ (incomingSpa (refEnv "k" (refCtx .access "1.2.3.4,tcp/22" (1762560000 + 2 ^ 32)))
        (refOpts "Y" false) (refClock 1762560000) (refServer [refStanza "k" ["tcp/22"]])).2,
        e.call.IsAction := by
  set_option maxRecDepth 8000 in decide

end Fwknopd
