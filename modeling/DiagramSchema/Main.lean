import DiagramSchema.Console

/-! The console program: it reads lines, opens the files they name, and prints the answers.
Prompts are answered by a provider; where none can be reached, every request to one fails. -/

open DiagramSchema

/-- The environment variables that settings are read from. -/
def settingVariables : List String :=
  ["LLM_PROVIDER", "GROQ_API_KEY", "GROQ_MODEL", "GEMINI_API_KEY", "GEMINI_MODEL",
    "SCHEMA_GENERATOR", "SCHEMA_DATASOURCE", "SCHEMA_URL_ENV", "CORS_ORIGINS", "LOG_LEVEL"]

/-- The settings under the environment of the process. -/
def environmentSettings : IO Settings := do
  let values ← settingVariables.filterMapM fun name => do
    return (← IO.getEnv name).map fun value => (name.toList, value.toList)
  return Settings.ofEnvironment fun name => values.lookup name

def openFile (path : Text) : IO (Except FileFault Text) := do
  try
    return .ok (← IO.FS.readFile (String.ofList path)).toList
  catch
    | .inappropriateType _ code _ =>
      return .error (if code.toNat = FileFault.folder.number then .folder else .notFolder)
    | .invalidArgument .. => return .error .nameTooLong
    | _ => return .error .missing

def answerLine (settings : Settings) (line : Text) : IO Text := do
  match Console.path? line with
  | some path => return (Console.answerFile path (← openFile path)).value
  | none =>
    let unreachable : ProviderClient := fun _ => .failed "no connection to the provider"
    return (Console.answerPrompt settings unreachable line).value

/-- Answers lines until the input ends or a line says so. -/
partial def converse (settings : Settings) (input output : IO.FS.Stream) : IO Unit := do
  output.putStr "You: "
  output.flush
  let raw ← input.getLine
  if raw.isEmpty then return
  let line := Text.trim raw.toList
  if Console.isQuit line then output.putStrLn "Goodbye!"
  else
    unless line.isEmpty do
      let answer ← answerLine settings line
      output.putStrLn (String.ofList (['\n'] ++ answer ++ ['\n']))
    converse settings input output

def main : IO Unit := do
  let output ← IO.getStdout
  for line in Console.banner do
    output.putStrLn (String.ofList line)
  converse (← environmentSettings) (← IO.getStdin) output
