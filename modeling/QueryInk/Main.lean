import QueryInk.Program

namespace QueryInk

def readFile (path : String) : IO (Option FileEntry) :=
  try
    let real ← IO.FS.realPath path
    if ← real.isDir then return some .directory
    if ← real.pathExists then return some (.file (← IO.FS.readBinFile real).toList)
    return none
  catch _ => return none

def readFiles (paths : List String) : IO Files :=
  paths.foldlM (fun files path => do
    match ← readFile path with
    | some entry => return files.put path entry
    | none => return files) []

def readEnv (names : List String) : IO (List (String × String)) :=
  names.filterMapM fun name => do
    return (← IO.getEnv name).map fun value => (name, value)

end QueryInk

open QueryInk in
def main (arguments : List String) : IO UInt32 := do
  let entries ← readEnv
    ["HOME", "XDG_CONFIG_HOME", "JXT_VERBOSE", "JXT_NO_COLOR", "JXT_CONFIG", "RUST_LOG"]
  let env name := entries.lookup name
  let files ← readFiles (Program.paths arguments env)
  let stdin ← if Program.readsStdin arguments env then
      (← IO.getStdin).readBinToEnd
    else pure ByteArray.empty
  let exit := Program.run arguments ⟨files, stdin.toList, env⟩ Sink.endless
  let stderr ← IO.getStderr
  for line in exit.log do stderr.putStrLn line
  let stdout ← IO.getStdout
  stdout.write ⟨exit.stdout.toArray⟩
  stdout.flush
  match exit.ending with
  | none => pure ()
  | some .usage => stderr.putStr Program.usage
  | some (.failure f) => stderr.putStrLn ("Error: " ++ f.inspect)
  return exit.code.toUInt32
