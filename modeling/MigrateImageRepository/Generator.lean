import Mathlib.Data.List.AList
import MigrateImageRepository.FileTree

/-! The script generator of `migrate-image-repository.go`.
Go maps are association lists with distinct keys whose order is never observed:
each `range` picks its own order of the pairs. Package yaml is a parameter, and
the file system is a tree with faults together with the content of every file and
the fault that reading it meets, if any. Paths are lists of components. -/

namespace MigrateImageRepository.Generator
open FileTree

abbrev GoMap (V : Type) := AList (fun _ : String => V)

/-- `m[key]` on a `map[string]string`: an absent key reads as the empty string. -/
def index (m : GoMap String) (key : String) : String := (m.lookup key).getD ""

abbrev ImageEntry := GoMap String
abbrev Groups := GoMap (List ImageEntry)
abbrev Mapping := GoMap Groups

/-- The pairs of a map in the order one `range` statement visits them. -/
structure Range {V : Type} (m : GoMap V) where
  order : List (Sigma fun _ : String => V)
  perm : order.Perm m.entries

/-- The orders picked during one run: for the `i`-th file over its projects, and
for each of its projects over the groups. -/
structure RangeOrder where
  projects : ℕ → (m : Mapping) → Range m
  groups : ℕ → String → (m : Groups) → Range m

def asListed : RangeOrder where
  projects _ m := ⟨m.entries, List.Perm.refl _⟩
  groups _ _ m := ⟨m.entries, List.Perm.refl _⟩

abbrev Path := List String

inductive Stop where
  | panic (msg : String)
  | fatal (msg : String)
deriving DecidableEq

/-- What makes `filepath.Walk` give up: an error from the callback, or a panic in it. -/
inductive Halt where
  | returned (err : String)
  | panicked (msg : String)

def mappingName : String := "image-mapping-2-original.yaml"

def nilDereference : String :=
  "runtime error: invalid memory address or nil pointer dereference"

/-- The callback given to `filepath.Walk`. It reads `info` before anything else and
never looks at its error argument. -/
def walkFn : WalkFunc String String Halt (List Path) := fun path info _err files =>
  match info with
  | none => .error (.panicked nilDereference)
  | some info =>
    if info.isDir then .ok files
    else if info.name = mappingName then .ok (files ++ [path])
    else .ok files

def rootParent : Path := ["private-cloud-image"]

def rootName : String := "migrate-image-repository"

def collect (root : Root String String) : Except Stop (List Path) :=
  match (root.node rootName).walk walkFn rootParent [] with
  | .ok files => .ok files
  | .error (.returned err) => .error (.panic err)
  | .error (.panicked msg) => .error (.panic msg)

def shHeader : String :=
  "apt install -y buildah\n" ++
  "buildah login -u \"$(cat container_username)\" --password-stdin < container_password \"https://registry.cn-shanghai.aliyuncs.com\"\n" ++
  "\n"

def emitEntry (shResult : String) (iF : ImageEntry) : String :=
  let iS := index iF "s"
  let iT := index iF "t"
  let shResult := shResult ++ ("buildah pull " ++ iS)
  let shResult := shResult ++ "\n"
  let shResult := shResult ++ ("buildah tag " ++ iS ++ " " ++ iT)
  let shResult := shResult ++ "\n"
  let shResult := shResult ++ ("buildah push " ++ iT)
  let shResult := shResult ++ "\n"
  let shResult := shResult ++ ("buildah rmi " ++ iS ++ " " ++ iT)
  let shResult := shResult ++ "\n"
  shResult ++ "\n"

def emitFile (ord : RangeOrder) (i : ℕ) (yamlFileContent : Mapping) (shResult : String) :
    String :=
  (ord.projects i yamlFileContent).order.foldl (fun shResult vR =>
    (ord.groups i vR.1 vR.2).order.foldl (fun shResult vF =>
      vF.2.foldl emitEntry shResult) shResult) shResult

def emitFiles (ord : RangeOrder) : ℕ → List Mapping → String → String
  | _, [], shResult => shResult
  | i, m :: files, shResult => emitFiles ord (i + 1) files (emitFile ord i m shResult)

def shScript (ord : RangeOrder) (files : List Mapping) : String :=
  emitFiles ord 0 files shHeader

section Reading

variable (unmarshal : ByteArray → Except String Mapping)
  (readFile : Path → Except String ByteArray)

def readMapping (file : Path) : Except Stop Mapping :=
  match readFile file with
  | .error err => .error (.fatal err)
  | .ok content =>
    match unmarshal content with
    | .error err => .error (.fatal ("yarm parse error: " ++ err))
    | .ok yamlFileContent => .ok yamlFileContent

def readAndEmit (ord : RangeOrder) : ℕ → List Path → String → Except Stop String
  | _, [], shResult => .ok shResult
  | i, file :: files, shResult =>
    match readMapping unmarshal readFile file with
    | .error stop => .error stop
    | .ok m => readAndEmit ord (i + 1) files (emitFile ord i m shResult)

end Reading

/-- `os.WriteFile` truncates before it writes, so a failure may leave any content. -/
inductive WriteResult where
  | written
  | failed (err : String) (left : Option String)

/-- The disk a run works on. A file has its content whether or not it can be read, and
`shSh` is the content of `sh.sh`, if the file exists. -/
structure Disk where
  root : Root String String
  content : Path → ByteArray
  readFault : Path → Option String
  writeFile : WriteResult
  shSh : Option String

/-- `os.ReadFile` -/
def Disk.readFile (disk : Disk) (file : Path) : Except String ByteArray :=
  match disk.readFault file with
  | some err => .error err
  | none => .ok (disk.content file)

structure Outcome where
  stop : Option Stop
  printed : String
  shSh : Option String

def printAndWrite (disk : Disk) (shResult : String) : Outcome :=
  match disk.writeFile with
  | .written => ⟨none, shResult, some shResult⟩
  | .failed err left => ⟨some (.fatal ("write file error: " ++ err)), shResult, left⟩

def main (unmarshal : ByteArray → Except String Mapping) (ord : RangeOrder) (disk : Disk) :
    Outcome :=
  match collect disk.root with
  | .error stop => ⟨some stop, "", disk.shSh⟩
  | .ok files =>
    match readAndEmit unmarshal disk.readFile ord 0 files shHeader with
    | .error stop => ⟨some stop, "", disk.shSh⟩
    | .ok shResult => printAndWrite disk shResult

def busybox : ImageEntry :=
  ⟨[⟨"s", "busybox:1.36"⟩,
      ⟨"t", "registry.cn-shanghai.aliyuncs.com/shilintan-public/busybox:1.36"⟩],
    by simp [List.NodupKeys, List.keys]⟩

def middlewareFile : Mapping :=
  AList.singleton "middleware" (AList.singleton "elasticsearch" [busybox])

def middlewareYaml : String :=
  "middleware:\n" ++
  "  elasticsearch:\n" ++
  "    - s: busybox:1.36\n" ++
  "      t: registry.cn-shanghai.aliyuncs.com/shilintan-public/busybox:1.36\n"

def monitorFile : Mapping :=
  AList.singleton "monitor" (AList.singleton "skywalking" [busybox])

def busyboxFiles : List Mapping := [middlewareFile, monitorFile]

/-- A decoder that knows a single document. -/
def decodeOnly (yaml : String) (m : Mapping) : ByteArray → Except String Mapping :=
  fun content =>
    if content.data = yaml.toUTF8.data then .ok m
    else .error "yaml: line 1: did not find expected node content"

theorem decodeOnly_toUTF8 (yaml : String) (m : Mapping) :
    decodeOnly yaml m yaml.toUTF8 = .ok m :=
  if_pos rfl

theorem readMapping_decodeOnly (yaml : String) (m : Mapping) (p : Path)
    {readFile : Path → Except String ByteArray} (h : readFile p = .ok yaml.toUTF8) :
    readMapping (decodeOnly yaml m) readFile p = .ok m := by
  simp only [readMapping, h, decodeOnly_toUTF8]

end MigrateImageRepository.Generator
