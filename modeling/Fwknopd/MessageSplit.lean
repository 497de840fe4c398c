import Fwknopd.ProcessSpaData
import Fwknopd.Reference

/-! The split of the decrypted message at its first ',' (lines 1134-1164 of incoming_spa.c).
It is exact, but at the top of the admitted range the source's terminator lands in
pkt_source_ip. -/
namespace Fwknopd

variable {σ : Type} {k : Consts} {w w' : Work σ}

theorem splitSpaMessage_of_no_comma (h : ',' ∉ w.spadat.spaMessage) :
    splitSpaMessage k w = .error .keepSearching w := by
  have hd : strchr w.spadat.spaMessage ',' = none := by
    cases hs : strchr w.spadat.spaMessage ',' with
    | none => rfl
    | some d =>
      obtain ⟨t, r, hm, -, -⟩ := strchr_eq_some_iff.1 hs
      exact absurd (hm ▸ List.mem_append_right t (List.mem_cons_self _ _)) h
  unfold splitSpaMessage
  rw [look_bind_apply]
  dsimp only
  rw [hd]
  rfl

theorem splitSpaMessage_src_ip {d : Nat} (hd : strchr w.spadat.spaMessage ',' = some d)
    (hr : (k.minIpv4StrLen : Int) - 1 ≤ d ∧ d ≤ k.maxIpv4StrLen) :
    (workOf (splitSpaMessage k w)).spadat.spaMessageSrcIp = w.spadat.spaMessage.take d := by
  unfold splitSpaMessage
  rw [look_bind_apply]
  dsimp only
  rw [hd, bind_apply_of_ok (need_ok_iff.2 ⟨rfl, rfl⟩), gate_bind_apply (by simpa using hr),
    change_bind_apply]
  cases isValidIpv4Addr (strlcpy w.spadat.spaMessage (d + 1)) <;>
    exact copySrcIp_spaMessageSrcIp k _ w.spadat

theorem copySrcIp_of_le {src : CStr} {sd : SpaData} (h : src.length ≤ spaMessageSrcIpSize k) :
    copySrcIp k src sd = { sd with
      pktSourceIp := if src.length < spaMessageSrcIpSize k then sd.pktSourceIp else []
      spaMessageSrcIp := src } := by
  unfold copySrcIp
  split_ifs
  · rfl
  · rw [List.drop_eq_nil_of_le h]

/-- The split returns normally exactly on `s ++ ',' :: r` with `s` admitted and valid, and
writes `s`, the cut `r`, and an empty pkt_source_ip when `s` fills its field. -/
theorem splitSpaMessage_ok_iff {u : Unit} : splitSpaMessage k w = .ok u w' ↔
    ∃ s r, w.spadat.spaMessage = s ++ ',' :: r ∧ ',' ∉ s ∧
      (k.minIpv4StrLen : Int) - 1 ≤ s.length ∧ s.length ≤ k.maxIpv4StrLen ∧
      isValidIpv4Addr s = true ∧
      w' = { w with spadat := { w.spadat with
        pktSourceIp := if s.length < spaMessageSrcIpSize k then w.spadat.pktSourceIp else []
        spaMessageSrcIp := s
        spaMessageRemain := r.take (k.maxDecryptedSpaLen - 1) } } := by
  have hcopy : ∀ {s r : CStr}, strlcpy (s ++ ',' :: r) (s.length + 1) = s := by
    intro s r
    simp [strlcpy]
  have hrest : ∀ {s r : CStr}, (s ++ ',' :: r).drop (s.length + 1) = r := by
    intro s r
    simp [List.drop_append_eq_append_drop]
  constructor
  · intro h
    obtain ⟨d, hd, h⟩ := need_bind_ok (look_bind_ok h)
    obtain ⟨hr, h⟩ := gate_bind_ok h
    obtain ⟨hv, h⟩ := gate_bind_ok (change_bind_ok h)
    obtain rfl := change_ok_iff.1 h
    obtain ⟨s, r, hm, hc, rfl⟩ := strchr_eq_some_iff.1 hd
    simp only [decide_eq_true_eq] at hr
    rw [hm, hcopy] at hv ⊢
    have h₂ : s.length ≤ k.maxIpv4StrLen := by exact_mod_cast hr.2
    exact ⟨s, r, rfl, hc, hr.1, h₂, hv, by rw [hrest, copySrcIp_of_le h₂]; rfl⟩
  · rintro ⟨s, r, hm, hc, h₁, h₂, hv, rfl⟩
    have hd : strchr w.spadat.spaMessage ',' = some s.length :=
      strchr_eq_some_iff.2 ⟨s, r, hm, hc, rfl⟩
    unfold splitSpaMessage
    rw [look_bind_apply]
    dsimp only
    rw [hd, bind_apply_of_ok (need_ok_iff.2 ⟨rfl, rfl⟩),
      gate_bind_apply (by simp only [decide_eq_true_eq]; exact ⟨h₁, by exact_mod_cast h₂⟩),
      change_bind_apply, hm, hcopy, gate_bind_apply hv, hrest, copySrcIp_of_le h₂, hm]
    rfl

/-- A first ',' at MAX_IPV4_STR_LEN passes the range check, and strlcpy writes one byte more
than the field holds. -/
theorem src_ip_copy_overflows (hk : k.minIpv4StrLen ≤ k.maxIpv4StrLen + 1)
    (hm : strchr w.spadat.spaMessage ',' = some k.maxIpv4StrLen) :
    (workOf (splitSpaMessage k w)).spadat.spaMessageSrcIp =
        w.spadat.spaMessage.take k.maxIpv4StrLen ∧
      spaMessageSrcIpSize k < (workOf (splitSpaMessage k w)).spadat.spaMessageSrcIp.length + 1 := by
  obtain ⟨s, r, hmsg, -, hs⟩ := strchr_eq_some_iff.1 hm
  have hsrc := splitSpaMessage_src_ip (k := k) hm ⟨by omega, le_rfl⟩
  refine ⟨hsrc, ?_⟩
  rw [hsrc, hmsg, ← hs, List.take_left, spaMessageSrcIpSize, hs]
  omega

def longSrcWork : Work (List String) :=
  ⟨{}, { initSpaData (refSlot refPayload) with spaMessage := "1234567890123456,tcp/22".data },
    [], []⟩

theorem src_ip_copy_overflows_longSrc :
    fwknopConsts.minIpv4StrLen ≤ fwknopConsts.maxIpv4StrLen + 1 ∧
      strchr longSrcWork.spadat.spaMessage ',' = some fwknopConsts.maxIpv4StrLen ∧
      (workOf (splitSpaMessage fwknopConsts longSrcWork)).spadat.spaMessageSrcIp =
        longSrcWork.spadat.spaMessage.take fwknopConsts.maxIpv4StrLen ∧
      spaMessageSrcIpSize fwknopConsts <
        (workOf (splitSpaMessage fwknopConsts longSrcWork)).spadat.spaMessageSrcIp.length + 1 :=
  ⟨by decide, by decide, src_ip_copy_overflows (by decide) (by decide)⟩

end Fwknopd
