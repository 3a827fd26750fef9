/-
The shell: it runs the commands of a script line by line. Whatever it runs
is part of the monitor; a name that stands for no program is not found.

Loops are bounded, so that every script ends.
-/
import HostWatch.Programs.Shell.Builtin
import HostWatch.Programs.Shell.Expand
import HostWatch.Programs.Shell.Reader

namespace HostWatch.Shell

-- ==================================================== scripts

/-- Runs the lines of a script; `lead` stands in front of what is said of a malformed one. -/
private def runLines (run : Command → State → State) (lead : String) (fuel : Nat)
    (tokens : Tokens) (s : State) : State :=
  match fuel with
  | 0 => s
  | fuel + 1 =>
    if s.stop.isSome then s
    else
      match readLine? tokens with
      | none => s
      | some (.error complaint) =>
        (s.complainAt complaint.line s!"{lead}Syntax error: {complaint.text}").exit 2
      | some (.ok (command, rest)) => runLines run lead fuel rest (run command s)

/-- Runs a script. -/
private def runScript (run : Command → State → State) (lead script : String) (s : State) :
    State :=
  let all := tokens script
  runLines run lead all.length all s

/-- What a shell is started with. -/
structure Start where
  script : String
  name : String
  arguments : List String := []
  stopsAtFailure : Bool := false

/-- What the arguments of a shell ask for; an error is what is said of them. -/
private def readStart (disk : Disk) (input : List UInt8) (name : String)
    (stopsAtFailure : Bool) : List String → Except String Start
  | [] => .ok { script := Text.ofBytes ⟨input.toArray⟩, name, stopsAtFailure }
  | first :: rest =>
    match first.toList with
    | '-' :: letters =>
      let isFailing := stopsAtFailure || letters.contains 'e'
      match letters.find? fun c => !"ceusx".toList.contains c with
      | some c => .error s!"Illegal option -{c}"
      | none =>
        if letters.contains 'c' then
          match rest with
          | [] => .error "-c requires an argument"
          | script :: more =>
            .ok
              { script, name := more.head?.getD name, arguments := more.drop 1
                stopsAtFailure := isFailing }
        else readStart disk input name isFailing rest
    | _ =>
      match disk.read first with
      | .ok content =>
        .ok { script := Text.ofBytes content, name := first, arguments := rest, stopsAtFailure }
      | .error _ => .error s!"cannot open {first}: No such file"

-- ==================================================== programs

section

variable (run : Command → State → State)

/-- Starts a shell within a script. -/
private def startShell (s : State) (name : String) (arguments : List String) : State :=
  match readStart s.disk s.input name false arguments with
  | .error e => { (s.printError s!"{name}: 0: {e}\n".toUTF8.toList) with status := 2 }
  | .ok start =>
    s.inProcess start.name start.arguments fun s =>
      runScript run "" start.script { s with stopsAtFailure := start.stopsAtFailure }

/-- Says that a name stands for no program. -/
private def notFound (s : State) (lead name : String) : State :=
  if name == "" then s.fail s!"{lead}: Permission denied" 127
  else if name.contains '/' && s.disk.contains name then
    s.fail s!"{lead}{name}: Permission denied" 126
  else s.fail s!"{lead}{name}: not found" 127

/-- Runs a program; `lead` stands in front of what is said if there is none. -/
private def runProgram (s : State) (lead name : String) (arguments : List String) : State :=
  match if name.contains '/' then Programs.nameIn? name else some name with
  | none => notFound s lead name
  | some "sh" => startShell run s name arguments
  | some program =>
    match Programs.run? s.disk ⟨s.input.toArray⟩ program name arguments with
    | none => notFound s lead name
    | some result =>
      let readsInput :=
        program == "cat" && (arguments.contains "-" || arguments.all (·.startsWith "-"))
      { s.add result with input := if readsInput then [] else s.input }

/-- Runs a command with a name. -/
private def runDefinition (s : State) (body : Command) (arguments : List String) : State :=
  let after := run body { s with arguments }
  let after := { after with arguments := s.arguments }
  if after.stop == some .returned then { after with stop := none } else after

/-- Runs the command that some fields make. -/
private def runFields (s : State) (fields : List String) : State :=
  match fields with
  | [] => s
  | name :: arguments =>
    match s.definitions.get? name, name, arguments with
    | some body, _, _ => runDefinition run s body arguments
    | none, "eval", arguments =>
      runScript run "eval: " (" ".intercalate arguments) { s with status := 0 }
    | none, "exec", [] => { s with status := 0 }
    | none, "exec", program :: arguments =>
      let after := runProgram run s "exec: " program arguments
      after.exit after.status
    | none, "command", name :: arguments =>
      match Builtin.find? name with
      | some act => act s arguments
      | none => runProgram run s "" name arguments
    | none, name, arguments =>
      match Builtin.find? name with
      | some act => act s arguments
      | none => runProgram run s "" name arguments

-- ==================================================== simple commands

/-- The output of a script within a word. -/
private def outputOf (script : String) (s : State) : State × List UInt8 :=
  let (after, printed) :=
    s.captured fun s => runScript run "" script { s with stopsAtFailure := false }
  ({ after with status := s.status, innerStatus := some after.status }, printed)

/-- Redirects streams one after the other; what is said if that fails. -/
private def redirectAll (s : State) (redirections : List Redirection) :
    State × Option String :=
  redirections.foldl (fun (s, failure) r =>
    if failure.isSome || s.stop.isSome then (s, failure)
    else
      let (s, target) := expandText (outputOf run) s r.target
      match s.redirect r.stream r.direction target with
      | .ok s => (s, none)
      | .error failure => (s, some failure)) (s, none)

/-- Runs something with redirected streams. -/
private def withRedirections (s : State) (redirections : List Redirection)
    (act : State → State) : State :=
  match redirectAll run s redirections with
  | (_, some failure) => s.fail failure 2
  | (redirected, none) =>
    let after := (act redirected).withStreams s
    if redirections.any fun r => r.stream == 0 then { after with input := s.input } else after

/-- Gives variables the values of some words. -/
private def assignAll (s : State) (assignments : List (String × Word)) : State :=
  assignments.foldl (fun s (name, word) =>
    if s.stop.isSome then s
    else
      let (s, value) := expandText (outputOf run) s word
      s.set name value) s

/-- Runs a command with variables that only it sees. -/
private def withAssignments (s : State) (assignments : List (String × Word))
    (act : State → State) : State :=
  let names := assignments.map (·.1)
  let assigned := names.foldl State.share (assignAll run s assignments)
  let after := act assigned
  let values := names.foldl (fun values name =>
    match s.values.get? name with
    | some old => values.insert name old
    | none => values.erase name) after.values
  { after with values, exported := s.exported }

/-- Runs a simple command. -/
private def runSimple (line : Nat) (words : List Word) (redirections : List Redirection)
    (s : State) : State :=
  let assignments := (words.takeWhile fun w => w.assignment?.isSome).filterMap Word.assignment?
  let (s, fields) :=
    expandFields (outputOf run) { s with line, innerStatus := none } (words.drop assignments.length)
  if s.stop.isSome then s
  else
    match fields with
    | [] =>
      withRedirections run s redirections fun s =>
        let after := assignAll run s assignments
        if after.stop.isSome then after else { after with status := after.innerStatus.getD 0 }
    | name :: arguments =>
      if name == "exec" && arguments.isEmpty then
        match redirectAll run s redirections with
        | (_, some failure) => s.abort failure
        | (redirected, none) => { redirected with status := 0 }
      else if Builtin.special.contains name then
        let isRefused := (redirectAll run s redirections).2.isSome
        let after := withRedirections run (assignAll run s assignments) redirections fun s =>
          runFields run s fields
        if isRefused then after.exit 2 else after
      else
        withRedirections run s redirections fun s =>
          withAssignments run s assignments fun s => runFields run s fields

end

-- ==================================================== commands

/-- Ends the script after a failure if that is asked for. -/
private def checkFailure (isTested : Bool) (s : State) : State :=
  if s.stopsAtFailure && !isTested && s.status != 0 && s.stop.isNone then s.exit s.status else s

/-- What a round of a loop leaves, and whether another one may follow. -/
private def afterRound (s : State) : State × Bool :=
  match s.stop with
  | none => (s, true)
  | some (.loops 1 goesOn) => ({ s with stop := none }, goesOn)
  | some (.loops (n + 2) goesOn) => ({ s with stop := some (.loops (n + 1) goesOn) }, false)
  | some _ => (s, false)

/-- How often a loop can run. -/
def maxRounds : Nat := 10000

/-- Runs a loop with a condition; `status` is how its last round has ended. -/
private def runLoop (wanted : Bool) (condition body : State → State) (fuel status : Nat)
    (s : State) : State :=
  match fuel with
  | 0 => s
  | fuel + 1 =>
    let (tested, mayGoOn) := afterRound (condition s)
    if !mayGoOn then tested
    else if (tested.status == 0) != wanted then { tested with status }
    else
      let (after, mayGoOn) := afterRound (body tested)
      if mayGoOn then runLoop wanted condition body fuel after.status after else after

/-- Runs a loop over items. -/
private def runEach (name : String) (body : State → State) : List String → State → State
  | [], s => s
  | item :: rest, s =>
    let (after, mayGoOn) := afterRound (body (s.set name item))
    if mayGoOn then runEach name body rest after else after

/-- Runs something as a loop. -/
private def asLoop (s : State) (run : State → State) : State :=
  { run { s with loopDepth := s.loopDepth + 1 } with loopDepth := s.loopDepth }

/--
Runs a command; `fuel` bounds how deep commands are nested. A failure of a command that is tested
does not end the script.
-/
def run (fuel : Nat) (isTested : Bool) (command : Command) (s : State) : State :=
  match fuel with
  | 0 => s
  | fuel + 1 =>
    if s.stop.isSome then s
    else
      match command with
      | .nothing => { s with status := 0 }
      | .simple line words redirections =>
        checkFailure isTested (runSimple (run fuel isTested) line words redirections s)
      | .negated command =>
        let after := run fuel true command s
        if after.stop.isSome then after
        else { after with status := if after.status == 0 then 1 else 0 }
      | .piped first second =>
        let (after, printed) := s.captured (run fuel isTested first)
        let part := run fuel isTested second { after with input := printed }
        checkFailure isTested (s.afterPart { part with input := after.input })
      | .both first second =>
        let after := run fuel true first s
        if after.stop.isSome || after.status != 0 then after
        else run fuel isTested second after
      | .either first second =>
        let after := run fuel true first s
        if after.stop.isSome || after.status == 0 then after
        else run fuel isTested second after
      | .sequence first second => run fuel isTested second (run fuel isTested first s)
      | .aside command => { s.inPart (run fuel true command) with status := 0 }
      | .subshell command => checkFailure isTested (s.inPart (run fuel isTested command))
      | .redirected line command redirections =>
        checkFailure isTested
          (withRedirections (run fuel isTested) { s with line } redirections
            (run fuel isTested command))
      | .choice condition yes no =>
        let tested := run fuel true condition s
        if tested.stop.isSome then tested
        else if tested.status == 0 then run fuel isTested yes tested
        else run fuel isTested no tested
      | .loop wanted condition body =>
        asLoop s (runLoop wanted (run fuel true condition) (run fuel isTested body) maxRounds 0)
      | .each name items body =>
        let (s, fields) := match items with
          | some words => expandFields (outputOf (run fuel isTested)) s words
          | none => (s, s.arguments)
        if s.stop.isSome then s
        else if fields.isEmpty then { s with status := 0 }
        else asLoop s (runEach name (run fuel isTested body) fields)
      | .definition name body =>
        { s with definitions := s.definitions.insert name body, status := 0 }

/-- How deep commands can be nested. -/
def maxDepth : Nat := 500

/-- What a shell leaves behind. -/
private def resultOf (s : State) : ProgramResult :=
  let bytes (index : Nat) : ByteArray := ⟨(s.buffers[index]?.getD []).toArray⟩
  { ending := match s.stop with
      | some (.killed _ signal) => .killed signal
      | _ => .exited s.status
    output := bytes 0
    errors := bytes 1 }

/-- Starts a shell. -/
private def start (disk : Disk) (name : String) (arguments : List String) : ProgramResult :=
  match readStart disk [] name false arguments with
  | .error e => { ending := .exited 2, errors := s!"{name}: 0: {e}\n".toUTF8 }
  | .ok start =>
    resultOf (runScript (run maxDepth false) "" start.script
      { disk
        name := start.name
        arguments := start.arguments
        stopsAtFailure := start.stopsAtFailure })

/-- The programs that commands can use, the shell among them. -/
def programs (disk : Disk) : Programs :=
  Programs.lookUp (fun name called arguments =>
    if name == "sh" then some (start disk called arguments)
    else Programs.run? disk ByteArray.empty name called arguments) disk

end HostWatch.Shell
