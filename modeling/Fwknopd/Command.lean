import Fwknopd.Decrypt

/-! process_cmd_msg, lines 501-598 of incoming_spa.c: the command string and the identity a
SPA command message runs under. -/
namespace Fwknopd

variable {σ : Type}

/-- The -u option: CMD_SUDO_EXEC_USER unless it starts with "root" (strncasecmp over 4 bytes). -/
def sudoUserOpt (size : Nat) (user : Option String) (b : CStr) : CStr :=
  match user with
  | some u => if strncasecmpEq u.data "root".data then b else strlcat (strlcat b " -u ".data size) u.data size
  | none => b

/-- The -g option: the test reads CMD_EXEC_GROUP, the value is CMD_SUDO_EXEC_GROUP (`none`
for the source's null read). -/
def sudoGroupOpt (size : Nat) (execGroup sudoGroup : Option String) (b : CStr) : Option CStr :=
  match execGroup, sudoGroup with
  | none, _ => some b
  | some _, none => none
  | some _, some g =>
    some (if strncasecmpEq g.data "root".data then b else strlcat (strlcat b " -g ".data size) g.data size)

/-- What process_cmd_msg leaves in cmd_buf for `remain`; `none` for a null read. -/
def cmdBuf (k : Consts) (opts : FkoSrvOptions) (acc : AccStanza) (remain : CStr) : Option CStr :=
  let size := k.maxSpaCmdLen
  if acc.enableCmdSudoExec then
    (sudoGroupOpt size acc.cmdExecGroup acc.cmdSudoExecGroup
        (sudoUserOpt size acc.cmdSudoExecUser (strlcpy (opts.config .sudoExe).data size))).map
      fun b => strlcat (strlcat b " ".data size) remain size
  else some (strlcpy remain size)

def sudoUserArg (user : Option String) : CStr :=
  match user with
  | some u => if strncasecmpEq u.data "root".data then [] else " -u ".data ++ u.data
  | none => []

def sudoGroupArg (execGroup sudoGroup : Option String) : Option CStr :=
  match execGroup, sudoGroup with
  | none, _ => some []
  | some _, none => none
  | some _, some g => some (if strncasecmpEq g.data "root".data then [] else " -g ".data ++ g.data)

/-- The command string before cmd_buf cuts it. -/
def cmdString (opts : FkoSrvOptions) (acc : AccStanza) (remain : CStr) : Option CStr :=
  if acc.enableCmdSudoExec then
    (sudoGroupArg acc.cmdExecGroup acc.cmdSudoExecGroup).map fun g =>
      (opts.config .sudoExe).data ++ sudoUserArg acc.cmdSudoExecUser ++ g ++ " ".data ++ remain
  else some remain

theorem sudoUserOpt_take {size : Nat} {user : Option String} {a : CStr} :
    sudoUserOpt size user (a.take (size - 1)) = (a ++ sudoUserArg user).take (size - 1) := by
  unfold sudoUserOpt sudoUserArg
  split
  · split_ifs
    · simp
    · rw [strlcat_take, strlcat_take, List.append_assoc]
  · simp

theorem sudoGroupOpt_take {size : Nat} {execGroup sudoGroup : Option String} {a : CStr} :
    sudoGroupOpt size execGroup sudoGroup (a.take (size - 1)) =
      (sudoGroupArg execGroup sudoGroup).map fun g => (a ++ g).take (size - 1) := by
  unfold sudoGroupOpt sudoGroupArg
  split
  · simp
  · rfl
  · split_ifs
    · simp
    · rw [Option.map_some', strlcat_take, strlcat_take, List.append_assoc]

theorem cmdBuf_eq_take {k : Consts} {opts : FkoSrvOptions} {acc : AccStanza} {remain : CStr} :
    cmdBuf k opts acc remain = (cmdString opts acc remain).map (List.take (k.maxSpaCmdLen - 1)) := by
  simp only [cmdBuf, cmdString, strlcpy]
  split_ifs
  · rw [sudoUserOpt_take, sudoGroupOpt_take, Option.map_map, Option.map_map]
    congr 1
    funext g
    simp only [Function.comp, strlcat_take, List.append_assoc]
  · rfl

/-- run_extcmd_as under CMD_EXEC_USER not starting with "root", else run_extcmd. -/
def cmdCall (acc : AccStanza) (cmd : CStr) : Call :=
  match acc.cmdExecUser with
  | some u =>
    if strncasecmpEq u.data "root".data then .runExtcmd cmd
    else .runExtcmdAs acc.cmdExecUid acc.cmdExecGid cmd
  | none => .runExtcmd cmd

/-- process_cmd_msg: refuse without command access or in test mode, else run the command. -/
def processCmdMsg (env : Env σ) (opts : FkoSrvOptions) (acc : AccStanza) (stanzaNum : Nat) :
    Spa σ Bool :=
  if !acc.enableCmdExec then pure false
  else if opts.test then pure false
  else do
    let w ← look
    match cmdBuf env.toConsts opts acc w.spadat.spaMessageRemain with
    | none => do
      emit stanzaNum .fault
      pure true
    | some cmd => do
      emit stanzaNum (cmdCall acc cmd)
      pure true

theorem processCmdMsg_runs {env : Env σ} {opts : FkoSrvOptions} {acc : AccStanza} {n : Nat}
    {w : Work σ} {cmd : CStr} (hx : acc.enableCmdExec = true) (ht : opts.test = false)
    (hb : cmdBuf env.toConsts opts acc w.spadat.spaMessageRemain = some cmd) :
    processCmdMsg env opts acc n w =
      .ok true { w with calls := w.calls ++ [⟨n, w.acc, w.spadat, cmdCall acc cmd⟩] } := by
  simp only [processCmdMsg, hx, ht, Bool.not_true, Bool.false_eq_true, if_false]
  rw [look_bind_apply, hb]
  rfl

end Fwknopd
