import Delegation.Text.Digits

/-!
# The words of a command line

Words are sorted into options and operands, and an option's value is checked as soon as it is read.
An option is given once, and its value may be attached to it with an equals sign. `sort` goes
through the words of a command.
-/

namespace Delegation.CommandLine

/-- Why a command line is not carried out. -/
inductive Stop where
  /-- Help was asked for, about a command or about all. -/
  | help (command : Option String)
  | misuse
  deriving DecidableEq, Repr

/-- What an option takes. -/
inductive Taking where
  | nothing
  | value (accepts : String → Bool)

/-- An option of a command. -/
structure OptionSpec where
  name : String
  taking : Taking
  about : String := ""
  /-- The variable of the environment that counts where the option is not given. -/
  source : Option String := none
  /-- The value where nothing is given. -/
  preset : Option String := none
  /-- The values to choose from. -/
  choices : List String := []

/-- The options of a command. -/
abbrev Grammar := List OptionSpec

/-- What the option of a name takes. -/
def Grammar.find? (g : Grammar) (name : String) : Option Taking :=
  (List.find? (fun o : OptionSpec => o.name = name) g).map (·.taking)

/-- A word, or two, understood. -/
inductive Item where
  | option (name : String) (value : String)
  | operand (word : String)
  /-- From here on all words are operands. -/
  | endOfOptions
  deriving DecidableEq, Repr

/-! ## Words -/

/-- The name of an option, and the value that is attached to it. -/
def longOption? (word : String) : Option (String × Option String) :=
  match word.toList with
  | '-' :: '-' :: cs =>
    let name := String.ofList (cs.takeWhile (· ≠ '='))
    match cs.dropWhile (· ≠ '=') with
    | '=' :: value => some (name, some (String.ofList value))
    | _ => some (name, none)
  | _ => none

/-- Does the word look like an option? A single hyphen does not. -/
def looksLikeOption (word : String) : Bool :=
  match word.toList with
  | '-' :: _ :: _ => true
  | _ => false

/-- What a word is, and whether it takes the next one with it. -/
def item (g : Grammar) (word : String) (next : Option String) : Except Stop (Item × Bool) :=
  if word = "--" then .ok (.endOfOptions, false)
  else
    match longOption? word with
    | some (name, attached) =>
      match g.find? name, attached, next with
      | some .nothing, none, _ => .ok (.option name "", false)
      | some (.value accepts), some v, _ =>
        if accepts v then .ok (.option name v, false) else .error .misuse
      | some (.value accepts), none, some v =>
        if !looksLikeOption v && accepts v then .ok (.option name v, true) else .error .misuse
      | none, none, _ => .error (if name = "help" then .help none else .misuse)
      | _, _, _ => .error .misuse
    | none =>
      if looksLikeOption word then .error (if word.startsWith "-h" then .help none else .misuse)
      else .ok (.operand word, false)

/-- Options with their values, and operands, both in order. -/
structure Sorted where
  options : List (String × String) := []
  operands : List String := []
  deriving DecidableEq, Repr

/-- The words after an option and its value are fewer. -/
theorem length_rest_lt (takesNext : Bool) (word : String) (rest : List String) :
    (if takesNext then rest.tail else rest).length < (word :: rest).length := by
  cases takesNext
  · simp
  · simp only [List.length_tail, List.length_cons, if_true]
    omega

/-- Sort the words of a command, at most so many operands among them. An option is given once. -/
def sort (g : Grammar) (arity : Nat) (done : Sorted) : List String → Except Stop Sorted
  | [] => .ok done
  | word :: rest =>
    match item g word rest.head? with
    | .error stop => .error stop
    | .ok (.endOfOptions, _) =>
      if arity < done.operands.length + rest.length then .error .misuse
      else .ok { done with operands := done.operands ++ rest }
    | .ok (.operand w, _) =>
      if arity ≤ done.operands.length then .error .misuse
      else sort g arity { done with operands := done.operands ++ [w] } rest
    | .ok (.option name value, takesNext) =>
      if (done.options.lookup name).isSome then .error .misuse
      else
        sort g arity { done with options := done.options ++ [(name, value)] }
          (if takesNext then rest.tail else rest)
termination_by words => words.length
decreasing_by
  · simp
  · exact length_rest_lt _ word rest

/-! ## Values -/

/-- A decimal number of 64 bits. A plus sign may stand before it. -/
def word64? (s : String) : Option UInt64 :=
  let digits := match s.toList with
    | '+' :: cs => cs
    | cs => cs
  (Text.decimal? digits).bind fun n => if n < Nat.pow 2 64 then some (UInt64.ofNat n) else none

def flag? (s : String) : Option Bool :=
  if s = "true" then some true else if s = "false" then some false else none

def anyText : Taking := .value fun _ => true
def aWord : Taking := .value fun s => (word64? s).isSome
def aFlag : Taking := .value fun s => (flag? s).isSome
def aPath : Taking := .value fun s => s ≠ ""

end Delegation.CommandLine
