import Fwknopd.ProcessSpaData

/-! What each part of process_spa_data can do to the state, said once for any relation its
steps keep. -/
namespace Fwknopd

variable {σ : Type} {env : Env σ} {opts : FkoSrvOptions} {clock : Clock} {acc : AccStanza}
  {pkt : SpaPktInfo} {n : Nat} {rd : Option String} {age : Int}

def Call.IsAttempt : Call → Prop
  | .fkoNewWithData .. | .fkoDecryptSpaData .. => True
  | _ => False

def Call.IsDispatch (c : Call) : Prop := c.IsAction ∨ c = .fault

theorem cmdCall_isAction {cmd : CStr} : (cmdCall acc cmd).IsAction := by
  unfold cmdCall
  split
  · split <;> trivial
  · trivial

section Effects

variable {R : Work σ → Work σ → Prop} [IsRefl (Work σ) R] [IsTrans (Work σ) R]

section Decrypt

variable (hattempt : ∀ {c : Call}, c.IsAttempt → Keeps R (emit (σ := σ) n c))
include hattempt

theorem handleRijndaelEnc_keeps {t : EncType} : Keeps R (handleRijndaelEnc env acc pkt t n) :=
  Keeps.ite (Keeps.bind (hattempt trivial) fun _ => Keeps.pure _) (Keeps.pure _)

theorem handleGpgEnc_keeps {a c : Bool} {t : EncType} {res : Option FkoCtx} :
    Keeps R (handleGpgEnc env acc pkt a c t n res) :=
  Keeps.ite (Keeps.ite (Keeps.bind (hattempt trivial) fun _ =>
    Keeps.bind (Keeps.need _ _) fun _ => Keeps.bind (Keeps.need _ _) fun _ =>
    Keeps.bind (hattempt trivial) fun _ => Keeps.pure _) (Keeps.pure _)) (Keeps.pure _)

theorem decrypt_keeps : Keeps R (decrypt env acc pkt n) := by
  unfold decrypt
  refine Keeps.ite (Keeps.bind (handleRijndaelEnc_keeps hattempt) ?_)
    (Keeps.bind (Keeps.pure _) ?_) <;>
  · rintro ⟨a, c, res⟩
    exact Keeps.bind (handleGpgEnc_keeps hattempt) fun ⟨_, _⟩ =>
      Keeps.bind (Keeps.need _ _) fun _ => Keeps.pure _

end Decrypt

section Spadat

variable (hspadat : ∀ {g : Work σ → SpaData},
  Keeps R (change fun w => { w with spadat := g w }))
include hspadat

theorem fetch_keeps {α : Type} {o : Option α} {set : SpaData → α → SpaData} :
    Keeps R (fetch (σ := σ) o set) :=
  Keeps.bind (Keeps.need _ _) fun _ => hspadat

theorem getSpaDataFields_keeps {ctx : FkoCtx} : Keeps R (getSpaDataFields (σ := σ) ctx) :=
  Keeps.bind (Keeps.need _ _) fun _ => Keeps.bind (fetch_keeps hspadat) fun _ =>
    Keeps.bind (fetch_keeps hspadat) fun _ => Keeps.bind (fetch_keeps hspadat) fun _ =>
    Keeps.bind (fetch_keeps hspadat) fun _ => Keeps.bind (fetch_keeps hspadat) fun _ =>
    Keeps.bind (fetch_keeps hspadat) fun _ => Keeps.bind (fetch_keeps hspadat) fun _ =>
    Keeps.bind (fetch_keeps hspadat) fun _ => fetch_keeps hspadat

theorem splitSpaMessage_keeps {k : Consts} : Keeps R (splitSpaMessage (σ := σ) k) :=
  Keeps.bind Keeps.look fun _ => Keeps.bind (Keeps.need _ _) fun _ =>
    Keeps.bind (Keeps.gate _ _) fun _ => Keeps.bind hspadat fun _ =>
    Keeps.bind (Keeps.gate _ _) fun _ => hspadat

theorem validate_keeps {t : EncType} {ctx : FkoCtx}
    (hadd : Keeps R (addReplayCache env opts rd false n)) :
    Keeps R (validate env opts clock acc n rd age t ctx) :=
  Keeps.bind hadd fun _ => Keeps.bind (Keeps.need _ _) fun _ =>
    Keeps.bind (Keeps.gate _ _) fun _ => Keeps.bind (Keeps.gate _ _) fun _ =>
    Keeps.bind (getSpaDataFields_keeps hspadat) fun _ => Keeps.bind hspadat fun _ =>
    Keeps.bind Keeps.look fun _ => Keeps.bind (Keeps.gate _ _) fun _ =>
    Keeps.bind (splitSpaMessage_keeps hspadat) fun _ => Keeps.bind Keeps.look fun _ =>
    Keeps.bind hspadat fun _ => Keeps.bind (Keeps.gate _ _) fun _ =>
    Keeps.ite (Keeps.bind Keeps.look fun _ => Keeps.bind (Keeps.gate _ _) fun _ =>
        Keeps.bind Keeps.look fun _ => Keeps.bind (Keeps.gate _ _) fun _ => Keeps.pure _)
      (Keeps.bind (Keeps.pure _) fun _ => Keeps.bind Keeps.look fun _ =>
        Keeps.bind (Keeps.gate _ _) fun _ => Keeps.pure _)

end Spadat

section Dispatch

variable (hdispatch : ∀ {c : Call}, c.IsDispatch → Keeps R (emit (σ := σ) n c))
include hdispatch

theorem processCmdMsg_keeps : Keeps R (processCmdMsg env opts acc n) := by
  unfold processCmdMsg
  refine Keeps.ite (Keeps.pure _) (Keeps.ite (Keeps.pure _) (Keeps.bind Keeps.look fun _ => ?_))
  split
  · exact Keeps.bind (hdispatch (.inr rfl)) fun _ => Keeps.pure _
  · exact Keeps.bind (hdispatch (.inl cmdCall_isAction)) fun _ => Keeps.pure _

theorem requestAccess_keeps : Keeps R (requestAccess (σ := σ) env acc n) := by
  unfold requestAccess
  refine Keeps.bind Keeps.look fun _ => ?_
  split
  · exact Keeps.bind (hdispatch (.inl trivial)) fun _ => Keeps.pure _
  · exact Keeps.bind (hdispatch (.inl trivial)) fun _ => Keeps.pure _

theorem dispatch_keeps {m : MsgType}
    (hspadat : ∀ {g : Work σ → SpaData}, Keeps R (change fun w => { w with spadat := g w })) :
    Keeps R (dispatch env opts acc n m) := by
  unfold dispatch
  refine Keeps.bind Keeps.look fun w => ?_
  have hjp : ∀ _ : Unit, Keeps R
      (if opts.test = true then pure .keepSearching else requestAccess env acc n) :=
    fun _ => Keeps.ite (Keeps.pure _) (requestAccess_keeps hdispatch)
  split
  · exact Keeps.bind (hdispatch (.inl trivial)) fun _ => Keeps.pure _
  · refine Keeps.ite (Keeps.bind (processCmdMsg_keeps hdispatch) fun _ => Keeps.pure _)
      (Keeps.ite ?_ ?_)
    · exact Keeps.bind (Keeps.gate _ _) fun _ => Keeps.bind (Keeps.need _ _) fun _ =>
        Keeps.bind hspadat hjp
    · exact Keeps.bind (Keeps.gate _ _) hjp

end Dispatch

theorem processSpaData_keeps
    (hacc : ∀ {g : Work σ → AccStanza}, Keeps R (change fun w => { w with acc := g w }))
    (hdecrypt : ∀ {acc : AccStanza}, Keeps R (decrypt env acc pkt n))
    (hvalidate : ∀ {acc : AccStanza} {t : EncType} {ctx : FkoCtx},
      Keeps R (validate env opts clock acc n rd age t ctx))
    (hdispatch : ∀ {acc : AccStanza} {m : MsgType}, Keeps R (dispatch env opts acc n m)) :
    Keeps R (processSpaData env opts clock pkt n rd age) :=
  Keeps.bind Keeps.look fun _ => Keeps.bind (Keeps.gate _ _) fun _ => Keeps.bind hacc fun _ =>
    Keeps.bind (Keeps.gate _ _) fun _ => Keeps.bind hdecrypt fun ⟨_, _⟩ =>
    Keeps.bind hvalidate fun _ => hdispatch

theorem addReplayCache_keeps {added : Bool}
    (hstore : ∀ {g : Work σ → σ}, Keeps R (change fun w => { w with store := g w }))
    (hinsert : ∀ {d : String} {ok : Bool}, Keeps R (emit (σ := σ) n (.addReplay d ok))) :
    Keeps R (addReplayCache env opts rd added n) := by
  refine Keeps.ite ?_ (Keeps.pure _)
  split
  · exact Keeps.pure _
  · exact Keeps.bind Keeps.look fun _ => Keeps.bind hstore fun _ => Keeps.bind hinsert fun _ =>
      Keeps.bind (Keeps.gate _ _) fun _ => Keeps.pure _

end Effects

end Fwknopd
