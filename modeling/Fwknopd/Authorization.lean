import Fwknopd.Reference
import Fwknopd.Search

/-! Authorization over the whole pipeline, and handle_gpg_sigs (lines 733-824), whose two
walks each decide their own list; a rejection sends process_spa_data on to the next stanza. -/
namespace Fwknopd

variable {σ : Type} {env : Env σ} {opts : FkoSrvOptions} {clock : Clock} {e : Event}

section Signer

variable {acc : AccStanza} {pkt : SpaPktInfo} {n : Nat} {rd : Option String} {age : Int}
  {t : EncType} {ctx : FkoCtx} {w w₁ w₂ : Work σ} {m : MsgType} {b : Bool}

theorem validate_of_signer_rejected (hsig : handleGpgSigs env acc ctx t = false)
    (hrc : addReplayCache env opts rd false n w = .ok b w₁) (hm : ctx.messageType = some m)
    (hcur : m.IsCurrent ∨ opts.is .allowLegacyAccessRequests 'N' = false) :
    validate env opts clock acc n rd age t ctx w = .error .keepSearching w₁ := by
  unfold validate
  rw [bind_apply_of_ok hrc, bind_apply_of_ok (need_ok_iff.2 ⟨hm, rfl⟩),
    gate_bind_apply (by simpa using hcur), hsig]
  rfl

/-- For GPG data under GPG_REQUIRE_SIG the gate accepts exactly the listed signers, and a
rejection is KEEP_SEARCHING with no action. -/
theorem gpg_signer_gate (ht : t = .gpg) (hreq : acc.gpgRequireSig = true) :
    (handleGpgSigs env acc ctx t = true ↔
      ctx.gpgSignatureId.isSome ∧ ctx.gpgSignatureFpr.isSome ∧
        (acc.gpgRemoteFpr = none ∨
          ListedSigner (env.fkoGpgSignatureFprMatch ctx) acc.gpgRemoteFprList) ∧
        (acc.gpgRemoteId = none ∨
          ListedSigner (env.fkoGpgSignatureIdMatch ctx) acc.gpgRemoteIdList)) ∧
    (handleGpgSigs env acc ctx t = false → w.acc = acc → srcDstCheck env acc pkt = true →
      (checkStanzaExpiration acc (clock.expiry n)).1 = true →
      decrypt env acc pkt n w = .ok (t, ctx) w₂ → addReplayCache env opts rd false n w₂ = .ok b w₁ →
      ctx.messageType = some m → (m.IsCurrent ∨ opts.is .allowLegacyAccessRequests 'N' = false) →
      processSpaData env opts clock pkt n rd age w = .error .keepSearching w₁ ∧
        ∀ e ∈ w₁.calls, e ∉ w.calls → ¬ e.call.IsAction) := by
  constructor
  · subst ht
    unfold handleGpgSigs
    rw [if_pos ⟨rfl, hreq⟩]
    cases ctx.gpgSignatureId <;> cases ctx.gpgSignatureFpr <;>
      simp [gpgListMatch_eq_some_true, Option.isNone_iff_eq_none]
  · rintro hsig rfl hsd hlive hd hrc hm hcur
    refine ⟨?_, fun e he hne => ?_⟩
    · rw [processSpaData_of_decrypt hsd hlive hd]
      exact bind_error_iff.2 (.inl (validate_of_signer_rejected hsig hrc hm hcur))
    · obtain ⟨new, hcalls, hnew⟩ :=
        trans_of (Adds Passive) (decrypt_logs.adds.of_ok hd) (addReplayCache_passive.of_ok hrc)
      rw [hcalls, List.mem_append] at he
      exact hnew e (he.resolve_left hne)

/-- Collaborators under which every packet is GPG data opening to `msg`. -/
def refGpgEnv (msg : FkoCtx) : Env (List String) :=
  { refEnv "k" msg with
    fkoEncryptionType := fun _ => .gpg
    fkoNewWithData := fun _ _ sdpId => some { msg with sdpId := some sdpId }
    fkoDecryptSpaData := fun c _ => some c }

def refGpgStanza : AccStanza :=
  { refStanza "k" ["tcp/22"] with
    useRijndael := false, useGpg := true, gpgAllowNoPw := true, gpgRequireSig := true }

theorem gpg_signer_gate_refGpg :
    ∃ w₂ w₁ : Work (List String),
      handleGpgSigs (refGpgEnv refRequest) refGpgStanza { refRequest with sdpId := some 0 } .gpg =
        false ∧
      decrypt (refGpgEnv refRequest) refGpgStanza (refSlot refPayload) 1
        ⟨refGpgStanza, initSpaData (refSlot refPayload), [], []⟩ =
          .ok (.gpg, { refRequest with sdpId := some 0 }) w₂ ∧
      addReplayCache (refGpgEnv refRequest) (refOpts "Y" false) (some "d") false 1 w₂ =
        .ok true w₁ ∧
      processSpaData (refGpgEnv refRequest) (refOpts "Y" false) (refClock 0) (refSlot refPayload) 1
        (some "d") 0 ⟨refGpgStanza, initSpaData (refSlot refPayload), [], []⟩ =
          .error .keepSearching w₁ := by
  obtain ⟨w₂, w₁, hd, hrc⟩ : ∃ w₂ w₁ : Work (List String),
      decrypt (refGpgEnv refRequest) refGpgStanza (refSlot refPayload) 1
        ⟨refGpgStanza, initSpaData (refSlot refPayload), [], []⟩ =
          .ok (.gpg, { refRequest with sdpId := some 0 }) w₂ ∧
      addReplayCache (refGpgEnv refRequest) (refOpts "Y" false) (some "d") false 1 w₂ =
        .ok true w₁ := ⟨_, _, rfl, rfl⟩
  refine ⟨w₂, w₁, rfl, hd, hrc,
    ((gpg_signer_gate rfl ?_).2 ?_ ?_ ?_ ?_ hd hrc rfl (.inr rfl)).1⟩
  all_goals rfl

end Signer

end Fwknopd
