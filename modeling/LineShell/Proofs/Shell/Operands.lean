import LineShell.Proofs.Shell.Directory
import LineShell.Proofs.Shell.Reports

/-! # The operands of builtins

What a builtin does with its words, whatever they look like.  A word that begins with a dash, that
asks for help or that is empty is an operand like any other.  Too many operands are refused before
anything is done with those in front.

* `Builtin.exists_does`          every builtin does something with any words
* `Builtin.Does.standardEffect`  what it does is what it decides
* `Shell.words_are_operands`     what running a builtin leaves, and a line that names one -/

namespace LineShell

/-- What a builtin does with its words, in the session `s` on the machine `w`: its status, the
    session that is left and the text that is written. -/
inductive Builtin.Does {η : Type} [Machine η] (s : Session) (w : η) :
    Builtin → List String → Status → Session → String → Prop
  | echo (words : List String) : Does s w echo words 0 s (" ".intercalate words ++ "\n")
  | pwd : Does s w pwd [] 0 s (s.dir.toText ++ "\n")
  | type (name : String) (names : List String) :
      Does s w type (name :: names)
        (if ∀ n ∈ name :: names, s.report w n ≠ n ++ ": not found\n" then 0 else 1) s
        (String.join ((name :: names).map (s.report w)))
  | type_nothing : Does s w type [] 1 s "type: missing argument\n"
  | cd {word : String} {dir : Octets} (h : s.Goes w [word] dir) : Does s w cd [word] 0 { s with dir } ""
  | cd_refused {word : String} {r : Refusal} (h : s.destination w word = .error r) :
      Does s w cd [word] 1 s (String.join r.texts ++ "\n")
  | cd_nowhere : Does s w cd [] 1 s "cd: missing argument\n"
  | exit {word : String} {status : Status} (h : Status.ofWord? word = some status) :
      Does s w exit [word] status { s with pendingExit := some status } ""
  | exit_refused {word : String} (h : Status.ofWord? word = none) :
      Does s w exit [word] 1 s ("exit: " ++ word ++ ": numeric argument required\n")
  | exit_now : Does s w exit [] 0 { s with pendingExit := some 0 } ""
  /-- There is no room for a word behind those that are as many as the builtin takes. -/
  | surplus {b : Builtin} {taken : List String} (h : b.limit? = some taken.length) (word : String)
      (rest : List String) :
      Does s w b (taken ++ word :: rest) 2 s ("Unrecognized argument: " ++ word ++ "\n")

namespace Builtin

section Words

variable {b : Builtin} {words : List String}

/-- A word is a surplus if as many words stand in front of it as the builtin takes. -/
theorem surplus?_eq_some_iff {word : String} :
    b.surplus? words = some word ↔
      ∃ taken rest, words = taken ++ word :: rest ∧ b.limit? = some taken.length := by
  rw [surplus?, Option.bind_eq_some_iff]
  constructor
  · rintro ⟨n, hn, hword⟩
    obtain ⟨hlt, rfl⟩ := List.getElem?_eq_some_iff.mp hword
    -- As many words as are taken stand in front of it.
    refine ⟨words.take n, words.drop (n + 1), ?_, ?_⟩
    · rw [← List.drop_eq_getElem_cons hlt, List.take_append_drop]
    · rw [hn, List.length_take_of_le (by omega)]
  · rintro ⟨taken, rest, rfl, hlimit⟩
    exact ⟨taken.length, hlimit, by simp⟩

/-- Without a surplus there are no more words than the builtin takes. -/
theorem length_le_of_surplus?_eq_none (h : b.surplus? words = none) {n : Nat}
    (hn : b.limit? = some n) : words.length ≤ n := by
  simpa [surplus?, hn] using h

end Words

variable {η : Type} [Machine η] {s s' : Session} {w : η} {b : Builtin} {words : List String}
  {status : Status} {out : String}

/-- A surplus is refused before anything is done with the words in front of it. -/
theorem answer_surplus [Arguments.Reader] {taken : List String}
    (h : b.limit? = some taken.length) (word : String) (rest : List String) :
    b.answer s w (taken ++ word :: rest) = .untaken b (.unrecognized word) := by
  rw [answer_eq, surplus?_eq_some_iff.mpr ⟨taken, rest, rfl, h⟩]

/-- What a builtin `Does` is what `Builtin.answer` decides. -/
theorem Does.effect [Arguments.Reader] (h : Does s w b words status s' out) :
    (b.answer s w words).effect s w = ⟨.ok status, s', w, out⟩ := by
  cases h with
  | echo => simp [answer_eq, surplus?, limit?, verdict, Answer.effect]
  | pwd => simp [answer_eq, surplus?, limit?, verdict, Answer.effect]
  | type name names =>
    have hbuiltin := Table.standardEffect_builtin s w .type (name :: names)
    exact hbuiltin.symm.trans (Table.standardEffect_type s w (List.cons_ne_nil name names))
  | type_nothing =>
    rw [answer_eq]
    rfl
  | cd h =>
    obtain ⟨findings, hanswer⟩ := answer_of_goes h
    rw [hanswer]
    rfl
  | cd_refused h =>
    rw [answer_cd_error h]
    rfl
  | cd_nowhere =>
    rw [answer_eq]
    rfl
  | exit h =>
    rw [answer_of_asked (.inr ⟨_, rfl, h⟩)]
    rfl
  | exit_refused h =>
    rw [answer_exit_none h]
    simp [Answer.effect, Refusal.texts, String.append_assoc]
  | exit_now =>
    rw [answer_of_asked (.inl ⟨rfl, rfl⟩)]
    rfl
  | surplus h word rest =>
    rw [answer_surplus h, Answer.effect, Arguments.Stop.texts_unrecognized]
    simp [Arguments.Stop.status, Arguments.Stop.isMistake]

/-- Running the name of a builtin in `Table.standard` does what the builtin `Does`. -/
theorem Does.standardEffect [Arguments.Reader] (h : Does s w b words status s' out) :
    Table.standardEffect s w b.name words = ⟨.ok status, s', w, out⟩ :=
  (Table.standardEffect_builtin s w b words).trans h.effect

/-- Every builtin `Does` something with any words. -/
theorem exists_does (s : Session) (w : η) (b : Builtin) (words : List String) :
    ∃ status s' out, Does s w b words status s' out := by
  cases hsurplus : b.surplus? words with
  | some word =>
    obtain ⟨taken, rest, rfl, hlimit⟩ := surplus?_eq_some_iff.mp hsurplus
    exact ⟨_, _, _, .surplus hlimit word rest⟩
  | none =>
    -- There are no more words than the builtin takes.
    have hlength (n : Nat) : b.limit? = some n → words.length ≤ n :=
      length_le_of_surplus?_eq_none hsurplus
    cases b with
    | echo => exact ⟨_, _, _, .echo words⟩
    | pwd =>
      obtain rfl := List.length_eq_zero_iff.mp (Nat.le_zero.mp (hlength 0 rfl))
      exact ⟨_, _, _, .pwd⟩
    | type =>
      cases words with
      | nil => exact ⟨_, _, _, .type_nothing⟩
      | cons name names => exact ⟨_, _, _, .type name names⟩
    | cd =>
      -- None, one or more operands; more than one would be a surplus.
      obtain _ | ⟨word, _ | ⟨next, rest⟩⟩ := words
      · exact ⟨_, _, _, .cd_nowhere⟩
      · -- One operand: there is a directory that it leads to, or a reason why not.
        cases hdir : s.destination w word with
        | ok dir => exact ⟨_, _, _, .cd (destination_eq_ok.mp hdir)⟩
        | error r => exact ⟨_, _, _, .cd_refused hdir⟩
      · exact absurd (hlength 1 rfl) (by simp)
    | exit =>
      obtain _ | ⟨word, _ | ⟨next, rest⟩⟩ := words
      · exact ⟨_, _, _, .exit_now⟩
      · cases hstatus : Status.ofWord? word with
        | some status => exact ⟨_, _, _, .exit hstatus⟩
        | none => exact ⟨_, _, _, .exit_refused hstatus⟩
      · exact absurd (hlength 1 rfl) (by simp)

end Builtin

namespace Shell

variable {ω η : Type} [Console ω] [Console.Collects ω] [Machine η] {sh : Shell (ω × η)}

/-- What a turn leaves behind that ends with `status`: what a command `Leaves`, and the status is
    that of the last turn. -/
def Ends (sh : Shell (ω × η)) (turn : Except Fault Status × Shell (ω × η)) (status : Status)
    (s : Session) (out : String) : Prop :=
  Leaves { sh with lastStatus := status } turn status s out

/-- What a command `Leaves` behind that is run by name, and how a turn `Ends` whose line names
    it. -/
structure Serves [Arguments.Reader] (sh : Shell (ω × η)) (name : String) (words : List String)
    (status : Status) (s : Session) (out : String) : Prop where
  leaves : sh.Leaves (run Table.standard name words sh) status s out
  ends : ∀ line, Words.words? line = .ok (name :: words) →
    sh.Ends (execute Table.standard line sh) status s out

/-- A command that leaves the machine alone leaves behind what `Table.standardEffect` says. -/
theorem serves_of_effect [Arguments.Reader] (hsh : sh.Works) {name : String} {words : List String}
    {status : Status} {s : Session} {out : String}
    (heffect : Table.standardEffect sh.scene.session sh.scene.stage.2 name words =
      ⟨.ok status, s, sh.scene.stage.2, out⟩) :
    sh.Serves name words status s out where
  leaves := leaves_of_effect hsh heffect
  ends line hline := by
    obtain ⟨o, hrun, -, hout⟩ := execute_standard line hsh
    -- The words of the line are those of the command, and the flush behind it goes well.
    rw [turnEffect, hline] at hrun hout
    dsimp only at hrun hout
    rw [heffect] at hrun hout
    rw [hrun]
    exact ⟨rfl, rfl, hout, rfl, rfl⟩

/-- Every word of a builtin is an operand, whatever it looks like, and whichever `Arguments.Reader`
    reads the arguments: a builtin finds all of its words behind the `mark` as they are, or else the
    first that it has no room for.  It does what it does with these words (`Builtin.Does`), and
    nothing at all if there are too many, both when it is run by name and in a turn whose line names
    it. -/
theorem words_are_operands [Arguments.Reader] (hsh : sh.Works) (b : Builtin) (words : List String) :
    let s := sh.scene.session
    let w := sh.scene.stage.2
    b.operands (Arguments.mark :: words) =
        (match b.limit?.bind fun n => words[n]? with
          | some word => .error (.unrecognized word)
          | none => .ok words) ∧
      (∃ status s' out, Builtin.Does s w b words status s' out) ∧
      ∀ status s' out, Builtin.Does s w b words status s' out →
        sh.Serves b.name words status s' out := by
  intro s w
  exact ⟨b.operands_mark words, Builtin.exists_does s w b words,
    fun status s' out hdoes => serves_of_effect hsh hdoes.standardEffect⟩

/-- An `echo` that is asked for help behind a mark of its own, and an `exit` whose first word is a
    status and whose second one is an option. -/
theorem words_are_operands_help :
    let sh : Shell (Sink × Host) :=
      start Table.standard { dir := "/" } ({}, .ofFiles {} fun _ => .ended (.exited 0))
    sh.Works ∧
      sh.Ends (execute Table.standard "echo -- --help ''" sh) 0 sh.scene.session
        "-- --help \n" ∧
      sh.Leaves (run Table.standard "exit" ["3", "-x"] sh) 2 sh.scene.session
        "Unrecognized argument: -x\n" := by
  intro sh
  have hsh : sh.Works := rfl
  obtain ⟨-, -, hecho⟩ := words_are_operands hsh .echo ["--", "--help", ""]
  obtain ⟨-, -, hexit⟩ := words_are_operands hsh .exit ["3", "-x"]
  have hline : Words.words? "echo -- --help ''" = .ok ["echo", "--", "--help", ""] := rfl
  have hroom : Builtin.exit.limit? = some ["3"].length := rfl
  refine ⟨hsh, ?_, ?_⟩
  · exact (hecho _ _ _ (.echo _)).ends _ hline
  · exact (hexit _ _ _ (.surplus hroom "-x" [])).leaves

end Shell

end LineShell
