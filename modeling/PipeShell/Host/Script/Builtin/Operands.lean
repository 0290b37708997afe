import PipeShell.Host.Script.Lookup

/-! # Options and operands of builtins -/

namespace PipeShell.Host.Script.Builtin

/-- An option and its argument, if it takes one. -/
abbrev Given := Char × Option String

section

-- Each letter that is allowed, with whether it takes an argument.
variable (allowed : List (Char × Bool))

/-- Goes on behind the letters of a word that have been read. The number is more than the words
are long. -/
def optionsFrom (given : List Given) (cs : List Char) (rest : List String) :
    Nat → Sh (List Given × List String)
  | 0 => return (given.reverse, rest)
  | fuel + 1 => match cs with
    | c :: cs => match allowed.lookup c with
      | none => Sh.fail ("Illegal option -" ++ String.ofList [c])
      | some false => optionsFrom ((c, none) :: given) cs rest fuel
      | some true =>
        if !cs.isEmpty then optionsFrom ((c, some (String.ofList cs)) :: given) [] rest fuel
        else match rest with
          | [] => Sh.fail ("No arg for -" ++ String.ofList [c] ++ " option")
          | argument :: rest => optionsFrom ((c, some argument) :: given) [] rest fuel
    | [] => match rest with
      | [] => return (given.reverse, [])
      | word :: rest => match word.toList with
        | ['-', '-'] => return (given.reverse, rest)
        | '-' :: c :: cs => optionsFrom given (c :: cs) rest fuel
        | _ => return (given.reverse, word :: rest)

/-- The options at the start of the operands, and what follows them. -/
def options (operands : List String) : Sh (List Given × List String) :=
  optionsFrom allowed [] [] operands
    (operands.foldl (fun n word => n + word.length + 1) 1)

end

/-- The operands of a builtin without options. -/
def plainOperands (operands : List String) : Sh (List String) := do
  return (← options [] operands).2

/-- Whether the last of several letters is this one. -/
def lastIs (given : List Given) (c : Char) : Bool :=
  match given.getLast? with
  | some (d, _) => c == d
  | none => false

/-- A text in quotes, so that it is read back as it is. -/
def quoted (text : String) : String := quotedFrom text.toList (text.length + 1)
where
  /-- Quotation marks are put into quotation marks of the other kind. -/
  quotedFrom (cs : List Char) : Nat → String
    | 0 => ""
    | fuel + 1 =>
      let plain := cs.takeWhile (· != '\'')
      let rest := cs.drop plain.length
      let marks := rest.takeWhile (· == '\'')
      let here := "'" ++ String.ofList plain ++ "'" ++
        (if marks.isEmpty then "" else "\"" ++ String.ofList marks ++ "\"")
      match rest.drop marks.length with
      | [] => here
      | more => here ++ quotedFrom more fuel

end PipeShell.Host.Script.Builtin
