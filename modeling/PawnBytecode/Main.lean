import PawnBytecode.CommandLine.Session

namespace PawnBytecode.CommandLine

def directoryCode : UInt32 := 21

def look (name : String) : IO Entry := do
  match ← (IO.FS.readBinFile name).toBaseIO with
  | .ok content => return .file content.toList
  | .error (.inappropriateType _ code _) =>
    return if code = directoryCode then .directory else .missing
  | .error (.noFileOrDirectory ..) | .error (.invalidArgument ..) => return .missing
  | .error refused => throw refused

def Options.paths (options : Options) : List Path :=
  [options.input, options.listingFile, options.treeFile] ++
    options.knowledgePath.toList.flatMap fun path => [path, path.child notesName]

def Path.beginnings (path : Path) : List Path :=
  (List.range (path.parts.length + 1)).map fun length =>
    { path with parts := path.parts.take length }

def observe (files : FileSet) (path : Path) : IO FileSet := do
  let location := path.parts.foldl FileSet.stepTo (if path.root.isEmpty then [] else ["/"])
  match ← look path.text with
  | .file content => return { files with files := FileSet.put location content files.files }
  | .directory => return { files with directories := location :: files.directories }
  | .missing => return files

def snapshot (arguments : List String) : IO FileSet := do
  match Options.ofArguments arguments with
  | .error _ => return ⟨[], []⟩
  | .ok options => (options.paths.flatMap Path.beginnings).foldlM observe ⟨[], []⟩

def commit (before after : FileSet) : IO Unit :=
  after.files.forM fun (location, content) =>
    if before.files.lookup location = some content then pure ()
    else IO.FS.writeBinFile location.text ⟨content.toArray⟩

def secondsText (milliseconds : Nat) : String :=
  let hundredths := milliseconds / 10
  toString (hundredths / 100) ++ "." ++ toString (hundredths / 10 % 10) ++ toString (hundredths % 10)

end PawnBytecode.CommandLine

open PawnBytecode.CommandLine in
def main (arguments : List String) : IO UInt32 := do
  let started ← IO.monoMsNow
  let files ← snapshot arguments
  let outcome := run arguments files
  commit files outcome.files
  IO.eprint outcome.errors
  IO.print (outcome.outputText (secondsText ((← IO.monoMsNow) - started)))
  match outcome.ending with
  | .exit code => return code.toUInt32
  | .abort cause =>
    IO.eprintln ("aborted: " ++ cause.message)
    return 1
