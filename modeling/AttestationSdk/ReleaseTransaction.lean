import AttestationSdk.Error
import AttestationSdk.LinkedFiles
import Mathlib.Data.List.Basic

/-! `transaction.run` of the release rail, one file-system operation at a time. -/
namespace AttestationSdk.Transaction
open LinkedFiles

/-- A `pathlib` path: its root and its components. -/
structure PurePath where
  root : String
  parts : List String
  deriving DecidableEq

namespace PurePath

def rootOf : List Char → String
  | '/' :: '/' :: '/' :: _ => "/"
  | '/' :: '/' :: _ => "//"
  | '/' :: _ => "/"
  | _ => ""

/-- Empty components and `.` do not count. -/
def parse (s : String) : PurePath where
  root := rootOf s.toList
  parts := ((s.toList.splitOn '/').map String.ofList).filter (fun part => part ≠ "" ∧ part ≠ ".")

/-- `base / s`: an absolute `s` stands for itself. -/
def join (base : PurePath) (s : String) : PurePath :=
  if (parse s).root = "" then ⟨base.root, base.parts ++ (parse s).parts⟩ else parse s

def name (p : PurePath) : String := p.parts.getLastD ""

def parent (p : PurePath) : PurePath := ⟨p.root, p.parts.dropLast⟩

def parents (p : PurePath) : List PurePath := p.parts.dropLast.inits.map (PurePath.mk p.root)

def str (p : PurePath) : String :=
  if p.root = "" ∧ p.parts = [] then "." else p.root ++ "/".intercalate p.parts

/-- `p` is `d` or lies under it. -/
def under (d p : PurePath) : Bool := d.root == p.root && d.parts.isPrefixOf p.parts

/-- `p` lies under `d` and is not `d`. -/
def inside (d p : PurePath) : Bool := d.under p && p != d

end PurePath

/-- One component, which the path it is joined to keeps as it is. -/
def isFileName (s : String) : Bool := PurePath.parse s == ⟨"", [s]⟩ && s != ".."

/-- The keys of a quartet. -/
inductive Key
  | archive
  | archiveSha256
  | manifest
  | manifestSha256
  deriving DecidableEq

def Key.str : Key → String
  | .archive => "archive"
  | .archiveSha256 => "archive-sha256"
  | .manifest => "manifest"
  | .manifestSha256 => "manifest-sha256"

/-- `QUARTET_ORDER`. -/
def quartetOrder : List Key := [.archive, .archiveSha256, .manifest, .manifestSha256]

/-- The keys of a dictionary are those of a quartet. -/
def isQuartet {α : Type} (d : List (String × α)) : Bool :=
  d.all (fun entry => (quartetOrder.map Key.str).contains entry.1) &&
    (quartetOrder.map Key.str).all (fun key => (d.map Prod.fst).contains key)

def lookupPath (d : List (String × PurePath)) (missing : PurePath) (key : Key) : PurePath :=
  (d.lookup key.str).getD missing

/-- The release a call is for. -/
structure Release where
  dist : PurePath
  targetId : String
  version : String

/-- `destination_names`: a dictionary of file names. -/
structure DestinationNames where
  entries : List (String × String)
  fileNames : entries.all (fun entry => isFileName entry.2) = true

namespace Release
variable (release : Release)

def stagingRoot : PurePath := release.dist.join ".staging"

def owned : PurePath := release.stagingRoot.join (release.targetId ++ "-" ++ release.version)

/-- The owned directory is one directory of the staging root. -/
def safeOwned : Bool :=
  release.owned.parent == release.stagingRoot && release.owned.name ∉ ["", ".", ".."]

/-- `destinations[key]`. -/
def destination (names : DestinationNames) (key : Key) : PurePath :=
  release.dist.join ((names.entries.lookup key.str).getD "")

def destinations (names : DestinationNames) : List PurePath :=
  quartetOrder.map (release.destination names)

end Release

/-- An `OSError`: its number and the names it was raised for. -/
structure OSError where
  errno : Option Nat
  filename : Option PurePath
  filename2 : Option PurePath
  deriving DecidableEq

def EPERM : Nat := 1
def ENOENT : Nat := 2
def EEXIST : Nat := 17
def ENOTDIR : Nat := 20

inductive TransactionError
  | namesNotQuartet
  | refusesToOverwrite (first : PurePath) (others : List PurePath)
  | unsafeOwned
  | outputsNotQuartet
  | outputMissing (source : PurePath)
  | appearedConcurrently (filename2 : Option PurePath)
  | promotionFailed (destination : PurePath) (error : OSError)
  deriving DecidableEq

/-- What is raised; `other` stands for the exceptions of the builder and the checkpoints. -/
inductive Exception
  | transaction (error : TransactionError)
  | os (error : OSError)
  | other (name : String)
  deriving DecidableEq

/-- `shlex.quote`. -/
def isShellSafe (c : Char) : Bool :=
  c.isAlphanum || ['_', '@', '%', '+', '=', ':', ',', '.', '/', '-'].contains c

def shlexQuote (s : String) : String :=
  if s.isEmpty then "''"
  else if s.toList.all isShellSafe then s
  else
    let quoted := s.toList.map (fun c => if c = '\'' then "'\"'\"'" else c.toString)
    "'" ++ String.join quoted ++ "'"

def shlexJoin (args : List String) : String := " ".intercalate (args.map shlexQuote)

/-- The command that moves an existing quartet aside. -/
def retainCommand (release : Release) (existing : List PurePath) : String :=
  let template := release.dist.join
    ("retained-" ++ release.targetId ++ "-" ++ release.version ++ ".XXXXXX")
  "retained=$(mktemp -d " ++ shlexQuote template.str ++ ")" ++ " && " ++
    shlexJoin ("mv" :: existing.map PurePath.str) ++ " \"$retained\"/"

/-- The text of a `TransactionError`; `strError` is `str` of an `OSError`. -/
def TransactionError.message (release : Release) (strError : OSError → String) :
    TransactionError → String
  | .namesNotQuartet => "destination names do not describe one quartet"
  | .refusesToOverwrite first others =>
    "promotion refuses to overwrite: " ++ first.str ++
      "; move the existing quartet aside with `" ++ retainCommand release (first :: others) ++
      "`, then retry"
  | .unsafeOwned => "unsafe owned staging path: " ++ release.owned.str
  | .outputsNotQuartet => "builder did not produce one complete quartet"
  | .outputMissing source => "builder output is missing: " ++ source.str
  | .appearedConcurrently filename2 =>
    "promotion destination appeared concurrently: " ++ (filename2.map PurePath.str).getD "None" ++
      "; move the conflicting file aside and retry"
  | .promotionFailed destination error =>
    "promotion failed at " ++ destination.str ++ ": " ++ strError error ++
      "; inspect the destination filesystem, correct the reported condition, and retry"

/-- What a rollback that is over raises. -/
def wrapError (destination : PurePath) : Exception → Exception
  | .os error =>
    if error.errno = some EEXIST then .transaction (.appearedConcurrently error.filename2)
    else .transaction (.promotionFailed destination error)
  | error => error


abbrev Files := FileSystem PurePath Bytes

/-- Where a call of `run` stands: the operation it does next. -/
inductive Phase
  | entered
  | probing (rest : List Key) (existing : List PurePath)
  | beforeConstruction
  | wiping
  | making
  | building
  | gating (rest : List Key)
  | beforePromotion
  | linking (key : Key) (rest : List Key)
  | unlinking (key : Key) (rest : List Key)
  | promoted (key : Key) (rest : List Key)
  | rollingBack (rest : List PurePath) (destination : PurePath) (error : Exception)
  | returned
  | raised (error : Exception)
  deriving DecidableEq

/-- A call of `run`. `wrote` is what its builder last wrote under each name and `held` the keys
whose destinations it has linked and not taken back; the code keeps neither. -/
structure RunState where
  phase : Phase
  sources : Key → PurePath
  moved : List PurePath
  wrote : PurePath → Option Bytes
  held : List Key

/-- What may happen next in a call; the builder takes any number of steps of its own. -/
inductive Event
  | proceed
  | fault (error : Exception)
  | builderWrites (path : PurePath) (bytes : Bytes)
  | builderMakesDirectory (path : PurePath)
  | builderRemoves (path : PurePath)
  | builderReturns (sources : List (String × PurePath))
  deriving DecidableEq

section Steps
variable (release : Release) (names : DestinationNames)

def start : RunState where
  phase := .entered
  sources := fun _ => release.owned
  moved := []
  wrote := fun _ => none
  held := []

def checkNames : Phase :=
  if isQuartet names.entries then .probing quartetOrder []
  else .raised (.transaction .namesNotQuartet)

/-- `checkpoint("before-construction")` and the check of the owned path. -/
def checkOwned : Phase :=
  if release.safeOwned then .wiping else .raised (.transaction .unsafeOwned)

/-- `shutil.rmtree(owned)` where there is something at the owned path. -/
def wipe (fs : Files) : Phase × Files :=
  if (fs.leadsTo release.owned).isSome then
    if fs.names release.owned = some .directory then
      (.making, fs.removeAll release.owned.under)
    else (.raised (.os ⟨if fs.isSymlink release.owned then none else some ENOTDIR,
      some release.owned, none⟩), fs)
  else (.making, fs)

/-- The directories `owned.mkdir(parents=True)` makes. -/
def madeDirectory (fs : Files) (p : PurePath) : Bool :=
  p == release.owned || release.owned.parents.contains p && (fs.names p).isNone

/-- `owned.mkdir(parents=True)`; a new directory is empty. -/
def makeOwned (fs : Files) : Phase × Files :=
  if (fs.names release.owned).isSome then
    (.raised (.os ⟨some EEXIST, some release.owned, none⟩), fs)
  else if release.owned.parents.any (fun p => (fs.names p).isSome && !fs.isDirectory p) then
    (.raised (.os ⟨some ENOTDIR, some release.owned, none⟩), fs)
  else
    (.building, (fs.removeAll release.owned.inside).addDirectories (madeDirectory release fs))

/-- A source has to be a file. -/
def gate (fs : Files) (source : PurePath) (rest : List Key) : Phase :=
  if fs.isFile source then .gating rest else .raised (.transaction (.outputMissing source))

/-- The next key to promote. -/
def promote : List Key → Phase
  | [] => .returned
  | key :: rest => .linking key rest

def linkErrno : LinkError → Nat
  | .missing => ENOENT
  | .present => EEXIST
  | .directory => EPERM

/-- `moved` is undone in reverse. -/
def startRollback (s : RunState) (key : Key) (error : Exception) : Phase :=
  .rollingBack s.moved.reverse (release.destination names key) error

/-- `os.link(source, destination)` and `moved.append(destination)`. -/
def linkKey (fs : Files) (s : RunState) (key : Key) (rest : List Key) : RunState × Files :=
  let source := s.sources key
  let destination := release.destination names key
  match fs.link source destination with
  | .ok fs' =>
    ({ s with
        phase := .unlinking key rest
        moved := s.moved ++ [destination]
        held := s.held ++ [key] }, fs')
  | .error e =>
    let error := .os ⟨some (linkErrno e), some source, some destination⟩
    ({ s with phase := startRollback release names s key error }, fs)

/-- `source.unlink()`. -/
def unlinkKey (fs : Files) (s : RunState) (key : Key) (rest : List Key) : RunState × Files :=
  match fs.unlink (s.sources key) with
  | .ok fs' => ({ s with phase := .promoted key rest }, fs')
  | .error e =>
    let error := .os ⟨some (linkErrno e), some (s.sources key), none⟩
    ({ s with phase := startRollback release names s key error }, fs)

/-- `destination.unlink(missing_ok=True)`, which is taken to succeed. -/
def takeBack (fs : Files) (destination : PurePath) : Files :=
  if (release.destinations names).contains destination then
    match fs.unlink destination with
    | .ok fs' => fs'
    | .error _ => fs
  else fs

/-- The next operation of the call itself; `none` while the builder has the turn, and at the end. -/
def proceed (fs : Files) (s : RunState) : Option (RunState × Files) :=
  match s.phase with
  | .entered => some ({ s with phase := checkNames names }, fs)
  | .probing (key :: rest) existing =>
    let path := release.destination names key
    let found := (fs.leadsTo path).isSome || fs.isSymlink path
    some ({ s with phase := .probing rest (if found then existing ++ [path] else existing) }, fs)
  | .probing [] [] => some ({ s with phase := .beforeConstruction }, fs)
  | .probing [] (first :: others) =>
    some ({ s with phase := .raised (.transaction (.refusesToOverwrite first others)) }, fs)
  | .beforeConstruction => some ({ s with phase := checkOwned release }, fs)
  | .wiping => some ({ s with phase := (wipe release fs).1 }, (wipe release fs).2)
  | .making => some ({ s with phase := (makeOwned release fs).1 }, (makeOwned release fs).2)
  | .building => none
  | .gating (key :: rest) => some ({ s with phase := gate fs (s.sources key) rest }, fs)
  | .gating [] => some ({ s with phase := .beforePromotion }, fs)
  | .beforePromotion => some ({ s with phase := promote quartetOrder }, fs)
  | .linking key rest => some (linkKey release names fs s key rest)
  | .unlinking key rest => some (unlinkKey release names fs s key rest)
  | .promoted _ rest => some ({ s with phase := promote rest }, fs)
  | .rollingBack (destination :: rest) _ error =>
    some ({ s with phase := .rollingBack rest destination error, held := s.held.dropLast },
      takeBack release names fs destination)
  | .rollingBack [] destination error =>
    some ({ s with phase := .raised (wrapError destination error) }, fs)
  | .returned => none
  | .raised _ => none

/-- The next operation raises. Rollback is taken to succeed. -/
def fault (error : Exception) (s : RunState) : Option RunState :=
  match s.phase with
  | .linking key _ | .unlinking key _ | .promoted key _ =>
    some { s with phase := startRollback release names s key error }
  | .entered | .rollingBack _ _ _ | .returned | .raised _ => none
  | _ => some { s with phase := .raised error }

/-- What the builder writes lies under the owned directory, in a directory that is there. -/
def builderWrites (fs : Files) (s : RunState) (path : PurePath) (bytes : Bytes) :
    Option (RunState × Files) :=
  if release.owned.inside path ∧ fs.names path.parent = some .directory then
    (fs.write path bytes).map (fun fs' =>
      ({ s with wrote := Function.update s.wrote path (some bytes) }, fs'))
  else none

def builderMakesDirectory (fs : Files) (s : RunState) (path : PurePath) :
    Option (RunState × Files) :=
  if release.owned.inside path ∧ fs.names path.parent = some .directory ∧
      fs.names path = none then
    some (s, fs.addDirectories (fun p => p == path))
  else none

def builderRemoves (fs : Files) (s : RunState) (path : PurePath) : Option (RunState × Files) :=
  if release.owned.inside path then some (s, fs.removeAll path.under) else none

/-- `sources = builder(owned, checkpoint)`: it returns paths under the owned directory. -/
def builderReturns (s : RunState) (sources : List (String × PurePath)) : Option RunState :=
  if sources.all (fun entry => release.owned.inside entry.2) then
    if isQuartet sources then
      some { s with phase := .gating quartetOrder, sources := lookupPath sources release.owned }
    else some { s with phase := .raised (.transaction .outputsNotQuartet) }
  else none

/-- One event of a call. -/
def step (fs : Files) (s : RunState) : Event → Option (RunState × Files)
  | .proceed => proceed release names fs s
  | .fault error => (fault release names error s).map (fun s' => (s', fs))
  | .builderWrites path bytes =>
    match s.phase with
    | .building => builderWrites release fs s path bytes
    | _ => none
  | .builderMakesDirectory path =>
    match s.phase with
    | .building => builderMakesDirectory release fs s path
    | _ => none
  | .builderRemoves path =>
    match s.phase with
    | .building => builderRemoves release fs s path
    | _ => none
  | .builderReturns sources =>
    match s.phase with
    | .building => (builderReturns release s sources).map (fun s' => (s', fs))
    | _ => none

end Steps

end AttestationSdk.Transaction
