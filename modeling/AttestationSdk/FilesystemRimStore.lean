import AttestationSdk.RimDocument

/-! `FilesystemRimStoreImpl`: RIM files in a directory. -/
namespace AttestationSdk.Rim
open Effects

def tcgExt : String := ".xml"
def corimExt : String := ".corim"

/-- What the store asks of the file system. -/
structure FileSystem (σ : Type) where
  pathExists : String → Prog Fault σ Bool
  pathIsDirectory : String → Prog Fault σ Bool
  readFileIntoString : String → Prog Fault σ (Option String)

def pathJoin (path1 path2 : String) : String :=
  if path1.isEmpty then path2
  else if path2.isEmpty then path1
  else if path1.back ≠ '/' ∧ path2.front ≠ '/' then path1 ++ "/" ++ path2
  else path1 ++ path2

section Store
variable {σ : Type} (files : FileSystem σ) (readDoc : String → Option Xml)

/-- A TCG RIM that is there: `create_from_rim_data`, then `set_rim_id`. -/
def readTcgRim (tcgPath rimId : String) (out : RimDocument) :
    Prog Fault σ (Error × RimDocument) := do
  match ← files.readFileIntoString tcgPath with
  | none => return (.InternalError, out)
  | some rimData =>
    let (rc, out) := createFromRimData readDoc rimData out
    if rc ≠ .Ok then return (.InternalError, out)
    else return (.Ok, { out with rimId })

/-- `FilesystemRimStoreImpl::get_rim`: TCG first, then CoRIM, which is not supported. -/
def filesystemGetRim (path rimId : String) (out : RimDocument) :
    Prog Fault σ (Error × RimDocument) := do
  let found ← files.pathExists path
  if !found then return (.RimNotFound, out) else do
    let directory ← files.pathIsDirectory path
    if !directory then return (.RimNotFound, out) else do
      let tcgPath := pathJoin path (rimId ++ tcgExt)
      let hasTcg ← files.pathExists tcgPath
      if hasTcg then readTcgRim files readDoc tcgPath rimId out else do
        let hasCorim ← files.pathExists (pathJoin path (rimId ++ corimExt))
        if hasCorim then return (.InternalError, out) else return (.RimNotFound, out)

/-- `FilesystemRimStoreImpl`. -/
def filesystemRimStore (path : String) : RimStore σ where
  getRim := filesystemGetRim files readDoc path

end Store

end AttestationSdk.Rim
