import RadioAdapter.Command.Invocation

/-! # How the command is used

A page of help says what something is about, how it is invoked, and, section by
section, the names that may be used and what each is about. The page of a task
is made from what the task takes, so that it cannot say anything else.
-/

namespace RadioAdapter.Command

/-- A list of names with what each is about. -/
structure Section where
  title : String
  entries : List (String × String)

/-- A page of help. -/
structure Page where
  about : String
  /-- What follows the name of the command in an invocation. -/
  synopsis : String
  sections : List Section

/-! ## Layout -/

/-- The length of the longest name of a section. -/
def Section.width (part : Section) : Nat :=
  part.entries.foldl (fun width entry => max width entry.1.length) 0

/-- The line of an entry: what it is about starts two columns after the longest
name. -/
def entryLine (width : Nat) (entry : String × String) : String :=
  "  " ++ entry.1 ++ String.ofList (List.replicate (width - entry.1.length + 2) ' ') ++
    entry.2 ++ "\n"

/-- A section, after an empty line. -/
def Section.text (part : Section) : String :=
  "\n" ++ part.title ++ ":\n" ++ String.join (part.entries.map (entryLine part.width))

/-- A page as it is printed. -/
def Page.text (page : Page) : String :=
  page.about ++ "\n\nUsage: oemhook " ++ page.synopsis ++ "\n" ++
    String.join (page.sections.map Section.text)

/-! ## Pages -/

/-- The section of options, to which asking for help always belongs. -/
def optionSection (entries : List (String × String)) : Section :=
  { title := "Options", entries := entries ++ [("-h, --help", "Print help")] }

/-- An option with the place of its value. -/
def OptionRule.label (rule : OptionRule) : String :=
  "--" ++ rule.name ++ " <" ++ rule.name.map Char.toUpper ++ ">"

/-- The place of a positional argument. -/
def PositionRule.label (rule : PositionRule) : String := "<" ++ rule.name ++ ">"

/-- How a task is invoked: options that may be left out are not named. -/
def Grammar.synopsis (grammar : Grammar) : String :=
  let free := if grammar.options.all (·.required) then [] else ["[OPTIONS]"]
  " ".intercalate (grammar.task :: free ++
    (grammar.options.filter (·.required)).map (·.label) ++ grammar.positions.map (·.label))

/-- The section of positional arguments, if there are any. -/
def Grammar.positionSections (grammar : Grammar) : List Section :=
  if grammar.positions.isEmpty then []
  else [{ title := "Arguments", entries := grammar.positions.map fun rule => (rule.label, "") }]

def Grammar.page (grammar : Grammar) : Page :=
  { about := grammar.about
    synopsis := grammar.synopsis
    sections := grammar.positionSections ++
      [optionSection (grammar.options.map fun rule => ("    " ++ rule.label, rule.about))] }

/-- What asking for help is about. -/
def helpAbout : String := "Print this message or the help of the given subcommand(s)"

/-- The page of the task that asks for help. -/
def helpPage : Page :=
  { about := helpAbout
    synopsis := "help [COMMAND]..."
    sections := [{ title := "Arguments"
                   entries := [("[COMMAND]...", "Print help for the subcommand(s)")] }] }

def commandPage : Page :=
  { about := "Build and inspect OEM-hook interface-configure records"
    synopsis := "<COMMAND>"
    sections :=
      [{ title := "Commands"
         entries := grammars.map (fun grammar => (grammar.task, grammar.about)) ++
          [("help", helpAbout)] },
        optionSection []] }

/-- The page that a user asks for, given the task that it is about, if any. -/
def page : Option String → Page
  | none => commandPage
  | some task =>
      match grammars.find? (·.task == task) with
      | some grammar => grammar.page
      | none => helpPage

end RadioAdapter.Command
