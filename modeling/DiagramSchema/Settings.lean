import DiagramSchema.Text.Blank

/-! Settings, their defaults, and the environment variables that override them. -/
namespace DiagramSchema

structure Settings where
  provider : Text := "groq"
  groqKey : Option Text := none
  groqModel : Text := "llama-3.3-70b-versatile"
  geminiKey : Option Text := none
  geminiModel : Text := "gemini-2.5-flash"
  schemaGenerator : Text := "prisma-client-js"
  schemaDatasource : Text := "mongodb"
  schemaUrlVariable : Text := "DATABASE_URL"
  allowedOrigins : List Text := ["http://localhost:3000", "http://localhost:5173"]
  logLevel : Text := "INFO"
deriving DecidableEq, Repr

namespace Settings

/-- The items of a list whose parts are separated by commas. Blank parts are left out. -/
def listed (value : Text) : List Text :=
  ((value.splitOnP (· == ',')).map Text.trim).filter fun part => !part.isEmpty

/-- The settings under an environment. A variable that is not set leaves the default; one that is
set to nothing counts, but for the list of origins. -/
def ofEnvironment (read : Text → Option Text) : Settings :=
  let standard : Settings := {}
  let setting (name standard : Text) : Text := (read name).getD standard
  { provider := setting "LLM_PROVIDER" standard.provider
    groqKey := read "GROQ_API_KEY"
    groqModel := setting "GROQ_MODEL" standard.groqModel
    geminiKey := read "GEMINI_API_KEY"
    geminiModel := setting "GEMINI_MODEL" standard.geminiModel
    schemaGenerator := setting "SCHEMA_GENERATOR" standard.schemaGenerator
    schemaDatasource := setting "SCHEMA_DATASOURCE" standard.schemaDatasource
    schemaUrlVariable := setting "SCHEMA_URL_ENV" standard.schemaUrlVariable
    allowedOrigins := match read "CORS_ORIGINS" with
      | none | some [] => standard.allowedOrigins
      | some value => listed value
    logLevel := setting "LOG_LEVEL" standard.logLevel }

end Settings
end DiagramSchema
