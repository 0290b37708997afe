import PipeShell.Host.ByteText

/-! # Environment variables -/

namespace PipeShell.Host

/-- Variables and their values, which need not be text. -/
abbrev Environment := List (String × ByteArray)

namespace Environment

/-- The value of a variable, if it is set to a text. -/
def text? (env : Environment) (name : String) : Option String :=
  (env.lookup name).bind Text.ofUtf8?

/-- Who uses the shell: `USER`, else `LOGNAME`, else nobody known. -/
def user (env : Environment) : String :=
  ((env.text? "USER").or (env.text? "LOGNAME")).getD ""

/-- The entries as programs are given them. -/
def entries (env : Environment) : List String :=
  env.map fun (name, value) => ByteText.ofText name ++ "=" ++ ByteText.ofBytes value

end Environment
end PipeShell.Host
