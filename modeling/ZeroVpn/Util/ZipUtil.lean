import ZeroVpn.Std.FileTree
import ZeroVpn.Std.Prog
import ZeroVpn.Std.Text

/-!
# Archive extraction

`ZipUtil.extractArchive`: the entries of an archive are validated as declared, then written below an
empty or new destination, and any failure while writing empties the destination again.

The archive is what `java.util.zip` shows of a file: the declared fields of its entries, and the
chunks that reading each of them yields, which need not agree. A disk is a file tree and the outcomes
of the coming operations: every operation may fail, and a write or `mkdirs` that fails may have done
a part of its work. Deletions succeed. `canonicalFile` is lexical, there are no links.
-/

namespace ZeroVpn

/-- The components of an absolute path. -/
abbrev Path := List String

abbrev Files := FileTree String UInt8

namespace File

def resolveComponent (p : Path) (component : String) : Path :=
  if component = "" ∨ component = "." then p
  else if component = ".." then p.dropLast
  else p ++ [component]

def resolve (start : Path) (text : String) : Path :=
  (Text.split '/' text).foldl resolveComponent start

/-- The canonical form of a path; a text with a NUL character has none. -/
def canonicalFile (userDir text : String) : Option Path :=
  if Text.containsChar text '\x00' then none
  else some (resolve (if Text.startsWith text "/" then [] else resolve [] userDir) text)

/-- `File.path` of a canonical file. -/
def path (p : Path) : String :=
  if p = [] then "/" else String.join (p.map ("/" ++ ·))

/-- `File(parent, child)` of a canonical parent. -/
def childText (parent : Path) (child : String) : String := path parent ++ "/" ++ child

/-- The parents of a path, the nearest first. -/
def parentFiles (p : Path) : List Path := (List.range p.length).reverse.map (p.take ·)

end File

inductive ExtractFailure where
  | zipException (message : String)
  | ioException (message : String)
  /-- Raised by the platform, with a text of its own. -/
  | platform
  deriving DecidableEq

structure Disk where
  files : Files
  /-- The outcomes of the coming operations: none succeeds in full, `some n` fails after `n` units
  of its work. -/
  faults : Nat → Option Nat

namespace Disk

variable {α : Type}

abbrev Op (α : Type) := Prog Disk ExtractFailure α

/-- The outcome of the next operation. -/
def fault : Op (Option Nat) :=
  .atomic (fun d => (d.faults 0, { d with faults := fun n => d.faults (n + 1) })) .ret

def exist (p : Path) : Op Bool := .read fun d => d.files.exist p

def isDirectory (p : Path) : Op Bool := .read fun d => d.files.isDirectory p

/-- The entries of a directory; `null` when they cannot be read. -/
def listFiles (p : Path) : Op (Option (List Path)) := do
  if (← fault).isSome then pure none else .read fun d => some (d.files.listFiles p)

def mkdirs (p : Path) : Op Bool := do
  let limit ← fault
  .atomic (fun d => ((d.files.mkdirs limit p).1, { d with files := (d.files.mkdirs limit p).2 })) .ret

/-- `FileOutputStream(file)`: an empty file, in the place of what is there. -/
def createFile (p : Path) : Op Unit := do
  if (← fault).isSome then .fail .platform
  else
    match ← .read fun d => d.files.create p with
    | none => .fail .platform
    | some files => .write fun d => { d with files }

/-- Write to the end of a file. -/
def writeFile (p : Path) (bytes : List UInt8) : Op Unit := do
  match ← fault with
  | none => .write fun d => { d with files := d.files.append p bytes }
  | some n => do
    .write fun d => { d with files := d.files.append p (bytes.take n) }
    .fail .platform

/-- An operation without effect on the files that may fail. -/
def attempt : Op Unit := do
  if (← fault).isSome then .fail .platform else pure ()

end Disk

namespace ZipUtil

def bufferSize : Nat := 4096

/-- What one `read` into the buffer yields. -/
abbrev Chunk := { bytes : List UInt8 // bytes.length ≤ bufferSize }

inductive ZipMethod where
  | stored
  | deflated
  | other
  deriving DecidableEq

structure ZipEntry where
  name : String
  method : ZipMethod
  size : Int64
  compressedSize : Int64
  /-- The chunks its stream yields before it ends. -/
  chunks : List Chunk
  /-- Its stream ends normally, not with an exception. -/
  intact : Bool

namespace ZipEntry

def isDirectory (entry : ZipEntry) : Bool := Text.endsWith entry.name "/"

/-- The bytes its stream yields. -/
def content (entry : ZipEntry) : List UInt8 := entry.chunks.flatMap Subtype.val

end ZipEntry

structure ZipFile where
  isFile : Bool
  length : Int64
  /-- `java.util.zip.ZipFile` opens it. -/
  opens : Bool
  entries : List ZipEntry

structure ExtractionLimits where
  maxArchiveBytes : Int64
  maxEntries : Nat
  maxEntryBytes : Int64
  maxTotalBytes : Int64
  /-- `entryBytes.toDouble() / compressedBytes > maxCompressionRatio` -/
  exceedsRatio : Int64 → Int64 → Bool
  maxArchiveBytes_pos : 0 < maxArchiveBytes
  maxEntries_pos : 0 < maxEntries
  maxEntryBytes_pos : 0 < maxEntryBytes
  maxTotalBytes_pos : 0 < maxTotalBytes

section
variable (root : Path) (limits : ExtractionLimits)

def resolveEntryTarget (entry : ZipEntry) : Except ExtractFailure Path :=
  match File.canonicalFile "/" (File.childText root entry.name) with
  | none => .error .platform
  | some target =>
    if target = root ∨ ¬ Text.startsWith (File.path target) (File.path root ++ "/") then
      .error (.zipException "ZIP entry resolves outside the destination directory")
    else .ok target

/-- The checks of the declared sizes; the new total is returned. -/
def validateSizes (entry : ZipEntry) (totalBytes : Int64) : Except ExtractFailure Int64 :=
  let entryBytes := entry.size
  let compressedBytes := entry.compressedSize
  if entryBytes < 0 ∨ compressedBytes < 0 then
    .error (.zipException "ZIP archive contains an entry with an unknown size")
  else if entry.isDirectory ∧ entryBytes ≠ 0 then
    .error (.zipException "ZIP archive contains a non-empty directory entry")
  else if limits.maxEntryBytes < entryBytes then
    .error (.zipException "ZIP archive entry exceeds the expanded-size limit")
  else if limits.maxTotalBytes - entryBytes < totalBytes then
    .error (.zipException "ZIP archive exceeds the total expanded-size limit")
  else if 0 < entryBytes ∧ (compressedBytes = 0 ∨ limits.exceedsRatio entryBytes compressedBytes) then
    .error (.zipException "ZIP archive entry exceeds the compression-ratio limit")
  else .ok (totalBytes + entryBytes)

/-- One round of the validation: the entries by target and the declared total so far. -/
def validateEntry (acc : LinkedMap Path ZipEntry × Int64) (entry : ZipEntry) :
    Except ExtractFailure (LinkedMap Path ZipEntry × Int64) := do
  let (entriesByTarget, totalBytes) := acc
  if limits.maxEntries ≤ entriesByTarget.entries.length then
    throw (.zipException "ZIP archive exceeds the entry-count limit")
  if entry.name = "" then
    throw (.zipException "ZIP archive contains an empty entry name")
  if entry.method ≠ .stored ∧ entry.method ≠ .deflated then
    throw (.zipException "ZIP archive contains an unsupported compression method")
  let target ← resolveEntryTarget root entry
  if target ∈ entriesByTarget.keys then
    throw (.zipException "ZIP archive contains duplicate entry destinations")
  let totalBytes ← validateSizes limits entry totalBytes
  return (entriesByTarget.put target entry, totalBytes)

/-- A parent of the target, below the root, is the target of a file. -/
def isBelowFile (entriesByTarget : LinkedMap Path ZipEntry) (target : Path) : Bool :=
  ((File.parentFiles target).takeWhile (· ≠ root)).any fun parent =>
    (entriesByTarget.entries.lookup parent).any (!·.isDirectory)

def validateEntries (zip : ZipFile) : Except ExtractFailure (LinkedMap Path ZipEntry) := do
  let (entriesByTarget, _) ← zip.entries.foldlM (validateEntry root limits) (.empty, 0)
  if entriesByTarget.keys.any (isBelowFile root entriesByTarget) then
    throw (.zipException "ZIP archive places an entry below a file")
  return entriesByTarget

/-- Whether the destination was created. -/
def prepareDestination : Disk.Op Bool := do
  if ← Disk.exist root then
    if !(← Disk.isDirectory root) then
      .fail (.ioException "ZIP destination must be an empty directory")
    else if (← Disk.listFiles root) ≠ some [] then
      .fail (.ioException "ZIP destination must be an empty directory")
    else pure false
  else if !(← Disk.mkdirs root) then
    .fail (.ioException "Unable to create ZIP destination directory")
  else pure true

/-- The loop of `copyEntry` over the chunks its stream yields. -/
def copyChunks (target : Path) (currentTotalBytes : Int64) (intact : Bool) :
    List Chunk → Int64 → Disk.Op Int64
  | [], entryBytes => if intact then pure entryBytes else .fail .platform
  | chunk :: chunks, entryBytes =>
    let readBytes := Int64.ofNat chunk.val.length
    let remainingEntryBytes := limits.maxEntryBytes - entryBytes
    let remainingTotalBytes := limits.maxTotalBytes - currentTotalBytes - entryBytes
    if remainingEntryBytes < readBytes ∨ remainingTotalBytes < readBytes then
      .fail (.zipException "ZIP entry exceeds the expanded-size limit while extracting")
    else do
      Disk.writeFile target chunk.val
      copyChunks target currentTotalBytes intact chunks (entryBytes + readBytes)

def copyEntry (target : Path) (entry : ZipEntry) (currentTotalBytes : Int64) : Disk.Op Int64 := do
  let entryBytes ← copyChunks limits target currentTotalBytes entry.intact entry.chunks 0
  if entryBytes ≠ entry.size then
    .fail (.zipException "ZIP entry expanded size differs from its declared size")
  else pure entryBytes

/-- A directory at the path, made if it is not there. -/
def ensureDirectory (p : Path) (message : String) : Disk.Op Unit := do
  if ← Disk.isDirectory p then pure ()
  else if ← Disk.mkdirs p then pure ()
  else .fail (.ioException message)

def extractFile (target : Path) (entry : ZipEntry) (totalBytes : Int64) : Disk.Op Int64 := do
  if target = [] then
    .fail (.zipException "ZIP entry has no destination parent")
  else
    ensureDirectory target.dropLast "Unable to create ZIP entry parent directory"
    if ← Disk.exist target then
      .fail (.zipException "ZIP entry would overwrite an existing file")
    else
      Disk.attempt -- opening the stream of the entry
      Disk.createFile target
      let bytes ← copyEntry limits target entry totalBytes
      Disk.attempt -- flushing and closing both streams
      return totalBytes + bytes

def extractEntries : List (Path × ZipEntry) → Int64 → Disk.Op Unit
  | [], _ => pure ()
  | (target, entry) :: entries, totalBytes =>
    if entry.isDirectory then do
      ensureDirectory target "Unable to create ZIP entry directory"
      extractEntries entries totalBytes
    else do
      let totalBytes ← extractFile limits target entry totalBytes
      extractEntries entries totalBytes

/-- The handler of a failed extraction. -/
def rollback (rootCreated : Bool) : Disk.Op Unit := do
  .write fun d => { d with files := d.files.removeBelow root }
  if rootCreated then .write fun d => { d with files := d.files.delete root } else pure ()

end

def extractArchive (userDir : String) (zipFile : ZipFile) (destination : String)
    (limits : ExtractionLimits) : Disk.Op Unit :=
  if !zipFile.isFile ∨ limits.maxArchiveBytes < zipFile.length then
    .fail (.zipException "ZIP archive is missing or exceeds the compressed-size limit")
  else
    match File.canonicalFile userDir destination with
    | none => .fail .platform
    | some root =>
      if !zipFile.opens then .fail .platform
      else do
        let entries ← .ofExcept (validateEntries root limits zipFile)
        let rootCreated ← prepareDestination root
        (extractEntries limits entries.entries 0).tryCatch fun error => do
          rollback root rootCreated
          .fail error

end ZipUtil
end ZeroVpn
