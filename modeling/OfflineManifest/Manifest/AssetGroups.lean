import OfflineManifest.Files.Store
import OfflineManifest.Manifest.DataGroups

/-! # Resolving asset groups

Files are listed once for every asset group. Then the groups claim files in order: a group claims
the files that its `files` accept and after that those that its `versionedFiles` accept, so far as
no group has claimed them before; each claimed file is hashed. What a group claims does not depend
on the order in which files are listed, since its files are sorted.

* `AssetGroup.matching` compiles the globs of a group and lists the files.
* `claim` takes the unclaimed files that a pattern set accepts.
* `Matching.resolve` claims and hashes the files of one group, `AssetGroup.resolveAll` those of all.
-/

namespace OfflineManifest

/-- The files that a manifest is made from. -/
structure Source where
  /-- the listing that is made for the asset group at an index -/
  list : Nat → Except FileError (List String)
  /-- the digest of a file, in writing -/
  hash : String → Except FileError String

/-- The files of a store. -/
def Source.ofStore {σ : Type} [FileStore σ] (s : σ) : Source where
  list _ := FileStore.list s "/"
  hash := FileStore.hash s

/-- An asset group, its pattern sets, and the files that were listed for it. -/
structure Matching where
  group : AssetGroup
  files : PatternSet
  versionedFiles : PatternSet
  listed : List String

namespace AssetGroup

/-- The pattern set of a list of globs of the group. -/
def patternSet (g : AssetGroup) (globs : List String) : Except GenerateError PatternSet :=
  (PatternSet.ofGlobs g.name globs).mapError .invalidPattern

/-- Compiles the globs of the group at an index and lists the files for it. -/
def matching (source : Source) (g : AssetGroup) (index : Nat) : Except GenerateError Matching := do
  let files ← g.patternSet g.resources.files
  let versionedFiles ← g.patternSet g.resources.versionedFiles
  let listed ← (source.list index).mapError (.list g.name)
  return { group := g, files, versionedFiles, listed }

/-- The diagnostics that the option used by a group calls for. -/
def notices (g : AssetGroup) : List Diagnostic :=
  if g.resources.versionedFiles.isEmpty then [] else [.versionedFiles g.name]

end AssetGroup

/-- **The files of a listing that a set accepts** and that are not claimed yet, each once. -/
def claim (set : PatternSet) (claimed : List String) : List String → List String
  | [] => []
  | file :: rest =>
    if set.accepts file && !claimed.contains file then file :: claim set (file :: claimed) rest
    else claim set claimed rest

/-- What the groups resolved so far have claimed. -/
structure Claims where
  /-- the claimed files -/
  files : List String := []
  /-- their digests by URL -/
  hashTable : KeyMap String := .empty

/-- Hashes the files of a group, in order. -/
def hashAll (base : String) (source : Source) (group : String) (table : KeyMap String) :
    List String → Except GenerateError (KeyMap String)
  | [] => .ok table
  | file :: rest => do
    let digest ← (source.hash file).mapError (.hash group file)
    hashAll base source group (table.insert (Url.join base file) digest) rest

namespace Matching

/-- The files that a group claims, in order. -/
def claimed (m : Matching) (before : List String) : List String :=
  let plain := claim m.files before m.listed
  (plain ++ claim m.versionedFiles (plain ++ before) m.listed).mergeSort

/-- **Resolves an asset group.** -/
def resolve (base : String) (source : Source) (m : Matching) (claims : Claims) :
    Run GenerateError (ResolvedAssetGroup × Claims) := do
  m.group.notices.forM Run.notice
  let files := m.claimed claims.files
  let hashTable ← Run.ofExcept (hashAll base source m.group.name claims.hashTable files)
  let installMode := m.group.installMode.getD .prefetch
  Run.log (.assetGroup m.group.name files.length installMode)
  let resolved : ResolvedAssetGroup := {
    name := m.group.name
    installMode
    updateMode := m.group.updateMode.getD installMode
    urls := files.map (Url.join base)
    patterns := urlPatterns base m.group.resources.urls }
  return (resolved, { files := files ++ claims.files, hashTable })

/-- Resolves asset groups in order. -/
def resolveAll (base : String) (source : Source) (claims : Claims) :
    List Matching → Run GenerateError (List ResolvedAssetGroup × Claims)
  | [] => return ([], claims)
  | m :: rest => do
    let (resolved, claims) ← m.resolve base source claims
    let (others, claims) ← resolveAll base source claims rest
    return (resolved :: others, claims)

end Matching

/-- **Resolves the asset groups** of a configuration, once files are listed for all of them. -/
def AssetGroup.resolveAll (base : String) (source : Source) (groups : List AssetGroup) :
    Run GenerateError (List ResolvedAssetGroup × Claims) := do
  let matchings ← Run.ofExcept (groups.zipIdx.mapM fun (g, i) => g.matching source i)
  Matching.resolveAll base source {} matchings

end OfflineManifest
