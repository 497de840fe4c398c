import Fwknopd.Search
import Fwknopd.Reference

/-! The commands the daemon runs for SPA command messages (process_cmd_msg, lines 501-598 of
incoming_spa.c): the cut command string, under an identity chosen by a "root" prefix test. -/
namespace Fwknopd

variable {σ : Type} {env : Env σ} {opts : FkoSrvOptions} {clock : Clock} {acc : AccStanza}
  {n : Nat} {m : MsgType} {w : Work σ} {e : Event} {cmd : CStr}

def Call.Runs (c : Call) (cmd : CStr) : Prop :=
  c = .runExtcmd cmd ∨ ∃ uid gid, c = .runExtcmdAs uid gid cmd

theorem cmdCall_runs {c : CStr} (h : (cmdCall acc c).Runs cmd) : c = cmd := by
  unfold cmdCall Call.Runs at h
  split at h
  · split_ifs at h <;> simp_all
  · simp_all

theorem Dispatches.runs (h : Dispatches env opts acc n m w e) (hc : e.call.Runs cmd) :
    acc.enableCmdExec = true ∧ opts.test = false ∧ e.spadat = w.spadat ∧
      cmdBuf env.toConsts opts acc w.spadat.spaMessageRemain = some cmd ∧ e.call = cmdCall acc cmd := by
  cases h with
  | cycleOpen => simp [Call.Runs] at hc
  | command _ _ hx ht hb =>
    obtain rfl := cmdCall_runs hc
    exact ⟨hx, ht, rfl, hb, rfl⟩
  | request => simp [Call.Runs] at hc

/-- Every command run comes from a stanza that allows commands, outside test mode, with the
cut command string and cmdCall's identity. -/
theorem incomingSpa_command_run {s : Server σ} (he : e ∈ (incomingSpa env opts clock s).2)
    (hc : e.call.Runs cmd) :
    e.acc.enableCmdExec = true ∧ opts.test = false ∧ e.call = cmdCall e.acc cmd ∧
      ∃ str, cmdString opts e.acc e.spadat.spaMessageRemain = some str ∧
        cmd = str.take (env.maxSpaCmdLen - 1) := by
  have ha : e.call.IsAction := by
    rcases hc with h | ⟨_, _, h⟩ <;> rw [h] <;> trivial
  obtain ⟨_, _, _, -, -, -, -, hadm, -⟩ := incomingSpa_action he ha
  obtain ⟨_, _, w, -, -, -, hdisp⟩ := hadm.checked
  obtain ⟨hx, ht, hsd, hb, hcall⟩ := hdisp.runs hc
  rw [cmdBuf_eq_take] at hb
  obtain ⟨str, hstr, rfl⟩ := Option.map_eq_some'.1 hb
  exact ⟨hx, ht, hcall, str, hsd ▸ hstr, rfl⟩

def refCommand : FkoCtx := refCtx .command "1.2.3.4,echo hi" 1762560000

theorem incomingSpa_command_run_refServer :
    ∃ (s : Server (List String)) (e : Event), e ∈ (incomingSpa (refEnv "k" refCommand)
      (refOpts "Y" false) (refClock 1762560000) s).2 ∧ e.call.Runs "echo hi".data ∧
      e.acc.enableCmdExec = true ∧ (refOpts "Y" false).test = false ∧
      e.call = cmdCall e.acc "echo hi".data ∧
      ∃ str, cmdString (refOpts "Y" false) e.acc e.spadat.spaMessageRemain = some str ∧
        "echo hi".data = str.take (fwknopConsts.maxSpaCmdLen - 1) := by
  obtain ⟨e, he, hc⟩ : ∃ e ∈ (incomingSpa (refEnv "k" refCommand) (refOpts "Y" false)
      (refClock 1762560000) (refServer [{ refStanza "k" [] with
        enableCmdExec := true, cmdExecUser := some "nobody", cmdExecUid := 65534 }])).2,
      e.call = .runExtcmdAs 65534 0 "echo hi".data := by
    set_option maxRecDepth 8000 in decide
  exact ⟨_, e, he, .inr ⟨_, _, hc⟩, incomingSpa_command_run he (.inr ⟨_, _, hc⟩)⟩

def longSudoStanza : AccStanza :=
  { refStanza "k" [] with
    enableCmdExec := true, enableCmdSudoExec := true,
    cmdSudoExecUser := some ⟨List.replicate 400 'u'⟩ }

def longSudoCommand : CStr :=
  "/usr/bin/sudo".data ++ " -u ".data ++ List.replicate 400 'u' ++ " ".data ++
    List.replicate 1000 'x'

def longCommandWork : Work (List String) :=
  ⟨longSudoStanza, { initSpaData (refSlot refPayload) with
    spaMessageRemain := List.replicate 1000 'x' }, [], []⟩

/-- "rootless" runs as the daemon, "wheel" adds no -g option, and a 1418-byte string is cut. -/
theorem command_run_diverges :
    (∃ e ∈ (incomingSpa (refEnv "k" refCommand) (refOpts "Y" false) (refClock 1762560000)
        (refServer [{ refStanza "k" [] with
          enableCmdExec := true, cmdExecUser := some "rootless", cmdExecUid := 1000,
          cmdExecGid := 1000 }])).2,
        e.call = .runExtcmd "echo hi".data) ∧
    (∃ e ∈ (incomingSpa (refEnv "k" refCommand) (refOpts "Y" false) (refClock 1762560000)
        (refServer [{ refStanza "k" [] with
          enableCmdExec := true, enableCmdSudoExec := true, cmdSudoExecGroup := some "wheel" }])).2,
        e.call = .runExtcmd "/usr/bin/sudo echo hi".data) ∧
    ∃ cmd, processCmdMsg (refEnv "k" refCommand) (refOpts "Y" false) longSudoStanza 1
        longCommandWork = .ok true { longCommandWork with
          calls := [⟨1, longSudoStanza, longCommandWork.spadat, .runExtcmd cmd⟩] } ∧
      cmd <+: longSudoCommand ∧ cmd.length = fwknopConsts.maxSpaCmdLen - 1 ∧
      cmd.length < longSudoCommand.length := by
  refine ⟨by set_option maxRecDepth 8000 in decide, by set_option maxRecDepth 8000 in decide, ?_⟩
  have hroot : strncasecmpEq (List.replicate 400 'u') "root".data = false := by decide
  have hstr : cmdString (refOpts "Y" false) longSudoStanza (List.replicate 1000 'x') =
      some longSudoCommand := by
    have hu : sudoUserArg longSudoStanza.cmdSudoExecUser = " -u ".data ++ List.replicate 400 'u' := by
      show (if strncasecmpEq (List.replicate 400 'u') "root".data then ([] : CStr)
        else " -u ".data ++ List.replicate 400 'u') = _
      rw [hroot, if_neg Bool.false_ne_true]
    have hsudo : longSudoStanza.enableCmdSudoExec = true := rfl
    rw [cmdString, if_pos hsudo]
    show Option.map _ (some []) = _
    rw [Option.map_some', hu, List.append_nil, longSudoCommand]
    simp only [List.append_assoc]
    rfl
  have hlen : longSudoCommand.length = 1418 := by
    simp only [longSudoCommand, List.length_append, List.length_replicate]
    rfl
  refine ⟨longSudoCommand.take 1399, processCmdMsg_runs rfl rfl ?_, List.take_prefix _ _, ?_, ?_⟩
  · show cmdBuf fwknopConsts (refOpts "Y" false) longSudoStanza (List.replicate 1000 'x') = _
    rw [cmdBuf_eq_take, hstr]
    rfl
  · simp only [List.length_take, hlen]
    rfl
  · simp only [List.length_take, hlen]
    decide

end Fwknopd
