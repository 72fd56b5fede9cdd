import BitProbe.Bench.Shell.Expansion

/-!
Where commands read from and write to.

* `targets`: what the words of redirections stand for;
* `redirect`, `redirectAll`: one redirection, and one after another as long
  as none fails;
* `restored`: the state after redirections have served.
-/

namespace BitProbe.Bench.Shell

/-- Why a file cannot be opened, in the words of a shell. -/
def openReason (e : FileError) (missing : String) : Octets :=
  match e with
  | .notFound => missing.toList
  | .notADirectory => missing.toList
  | e => e.reason.toList

/-- The texts that the words of redirections stand for. Texts of lines are
left for later. -/
def targets (capture : Capture) :
    List Redirect → State → List (Nat × Redirect.Kind × Octets) × State
  | [], st => ([], st)
  | (way, kind, p) :: rs, st =>
    let (o, st) := match kind with
      | .text _ => ([], st)
      | _ => textOf capture p st
    if !st.isRunning then ([], st)
    else
      let copies := kind = .copyIn || kind = .copyOut
      let next (st : State) : List (Nat × Redirect.Kind × Octets) × State :=
        let r := targets capture rs st
        ((way, kind, o) :: r.1, r.2)
      match o, copies with
      | ['-'], true => next st
      | [c], true => if c.isDigit then next st else misnumbered st
      | _, true => misnumbered st
      | _, false => next st
where
  /-- Ends the script because a number is none. -/
  misnumbered (st : State) : List (Nat × Redirect.Kind × Octets) × State :=
    ([], { st with line := st.lineRead }.fail
      "Syntax error: Bad fd number".toList)

/-- The channel of what stands at a place. -/
def channelOf (place : List String) (access : Access) :
    FileTree.Node → Channel
  | .directory => .directory
  | .null => .null
  | .zeros => .zeros
  | .full => .full
  | _ => .file place 0 access

/-- The state with a number leading to a channel that is added. -/
def State.aimAt (st : State) (way : Nat) (c : Channel) : State :=
  let (k, st) := st.addChannel c
  st.aim way k

/-- The state with a number leading where another one does, or to the start
of the file that the other one leads to. -/
def State.aimLike (st : State) (way other : Nat) (access : Access) :
    Except FileError State :=
  match st.ways.lookup other with
  | none => .error .notFound
  | some k =>
    match st.channels[k]? with
    | some (.file place _ _) => .ok (st.aimAt way (.file place 0 access))
    | _ => .ok (st.aim way k)

/-- Opens a file to be read. -/
def openToRead (way : Nat) (path : String) (st : State) :
    Except FileError State :=
  match st.files.lookup path, st.files.locate path with
  | .error e, _ => .error e
  | _, .error e => .error e
  | .ok (.way n), _ => st.aimLike way n .reading
  | .ok node, .ok place => .ok (st.aimAt way (channelOf place .reading node))

/-- Opens a file to be written, which is made if it is not there. Files that
are there may be kept from being written. -/
def openToWrite (way : Nat) (path : String) (access : Access)
    (empties guarded : Bool) (st : State) : Except FileError State :=
  match st.files.lookup path, st.files.writable path with
  | .ok .directory, _ => .error .isADirectory
  | .ok (.way n), _ => st.aimLike way n access
  | .ok (.file bytes), .ok place =>
    if guarded then .error .alreadyThere
    else
      let files := if empties && !bytes.isEmpty then
          st.files.setContents place []
        else if empties then st.files.written place
        else st.files
      .ok ({ st with files }.aimAt way (.file place 0 access))
  | .ok node, .ok place => .ok (st.aimAt way (channelOf place access node))
  | .error .notFound, .ok place =>
    if (st.files.node? place.dropLast) = some .directory then
      let made := { st with files := st.files.put place (.file []) }
      .ok ((made.created place).aimAt way (.file place 0 access))
    else .error .notFound
  | .error e, _ => .error e
  | _, .error e => .error e

/-- Makes a redirection, or says why that is not possible. -/
def redirect (way : Nat) (kind : Redirect.Kind) (o : Octets) (st : State) :
    Except Octets State :=
  let path := o.toText
  let created (r : Except FileError State) : Except Octets State :=
    r.mapError fun e => "cannot create ".toList ++ o ++ ": ".toList ++
      openReason e "Directory nonexistent"
  let read (r : Except FileError State) : Except Octets State :=
    r.mapError fun e => "cannot open ".toList ++ o ++ ": ".toList ++
      openReason e "No such file"
  let write (access : Access) (empties : Bool) : Except Octets State :=
    created (openToWrite way path access empties false st)
  let copy : Except Octets State :=
    match Text.decimal? o with
    | none => .ok (st.close way)
    | some n =>
      match st.ways.lookup n with
      | some k => .ok (st.aim way k)
      | none => .error (o ++ ": ".toList ++ FileError.noWay.reason.toList)
  match kind with
  | .read => read (openToRead way path st)
  | .write =>
    let opened := openToWrite way path .writing true (st.has 'C') st
    let plain := match st.files.lookup path with
      | .ok (.file _) => true
      | .ok _ => false
      | .error _ => true
    if st.has 'C' && !plain then read opened else created opened
  | .overwrite => write .writing true
  | .append => write .adding false
  | .both => write .both false
  | .copyIn => copy
  | .copyOut => copy
  | .text _ => .ok (st.aimAt way (.source (.ofOctets o) 0))

/-- What a redirection leads to: a text of lines is expanded when its turn
comes. -/
def content (capture : Capture) (kind : Redirect.Kind) (o : Octets)
    (st : State) : Octets × State :=
  match kind with
  | .text n =>
    let (ps, st) := expand capture nestingLimit .text
      ((st.texts.lookup n).getD []) st
    (octetsOfParts ps, st)
  | _ => (o, st)

/-- Makes redirections as long as that is possible, and says whether it was.
A text that cannot be expanded counts as a redirection that is not
possible. -/
def redirectAll (capture : Capture) :
    List (Nat × Redirect.Kind × Octets) → State → Bool × State
  | [], st => (true, st)
  | (way, kind, o) :: rs, st =>
    let (o, st) := content capture kind o st
    if st.flow = .failing then (false, { st with flow := .onward })
    else if !st.isRunning then (false, st)
    else match redirect way kind o st with
    | .ok st => redirectAll capture rs st
    | .error m => (false, st.complain m)

/-- The status of a command whose redirections are not possible. -/
def redirectFailure : Nat := 2

/-- The state after redirections have served. -/
def restored (before after : State) : State :=
  { after with ways := before.ways, traceWay := before.traceWay }.trim
    before.channels.length

/-- Runs with redirections that are known. -/
def redirected (capture : Capture)
    (rs : List (Nat × Redirect.Kind × Octets)) (f : State → State) (st : State) : State :=
  if rs.isEmpty then f st
  else
    let (done, ready) := redirectAll capture rs st
    restored st
      (if done then f ready else { ready with status := redirectFailure })

end BitProbe.Bench.Shell
