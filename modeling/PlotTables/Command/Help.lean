import PlotTables.Command.Arguments

set_option autoImplicit false

namespace PlotTables

structure HelpPage where
  about : String
  usage : String
  -- Titled lists of names and what they mean.
  lists : List (String × List (String × String))

namespace HelpPage

def padded (width : Nat) (text : String) : String :=
  text ++ String.ofList (List.replicate (width - text.length) ' ')

def listText (list : String × List (String × String)) : String :=
  let width := (list.2.map fun line => line.1.length).foldl max 0
  let lines := list.2.map fun (name, meaning) => "  " ++ padded width name ++ "  " ++ meaning ++ "\n"
  "\n" ++ list.1 ++ ":\n" ++ String.join lines

def render (page : HelpPage) : String :=
  page.about ++ "\n\nUsage: plotprep " ++ page.usage ++ "\n" ++
    String.join (page.lists.map listText)

end HelpPage

namespace Arguments

def Operand.written (operand : Operand) : String := "<" ++ operand.name ++ ">"

def Flag.line (flag : Flag) : String × String :=
  let (name, meaning) :=
    match flag with
    | .marker => ("    --marker <MARKER>", "Prefix of the cell holding the count")
    | .format => ("-f, --format <FORMAT>", "Report format: text, json, or yaml")
  (name, meaning ++ " [default: " ++ flag.default ++ "]")

end Arguments

namespace Verb

def about : Verb → String
  | .frequencies => "Extract marker counts from a `;`-delimited trace and subsample them"
  | .subsample => "Subsample the rows of a TSV table with a `Count` column"
  | .merge => "Merge the tables listed in a manifest, labeled by file name"
  | .mergePair => "Interleave two equal-length tables as With/Without rows"

def helpPage (verb : Verb) : HelpPage where
  about := verb.about
  usage :=
    let options := if Arguments.flagsOf verb = [] then [] else ["[OPTIONS]"]
    " ".intercalate
      (verb.name :: options ++ (Arguments.operandsOf verb).map Arguments.Operand.written)
  lists :=
    [("Arguments", (Arguments.operandsOf verb).map fun operand => (operand.written, operand.meaning)),
      ("Options",
        (Arguments.flagsOf verb).map Arguments.Flag.line ++ [("-h, --help", "Print help")])]

end Verb

namespace Topic

def aboutHelp : String := "Print this message or the help of the given subcommand(s)"

def page : Topic → HelpPage
  | .program =>
      { about := "Subsampling and merging of frequency/count tables for plotting"
        usage := "<COMMAND>"
        lists :=
          [("Commands",
              (Verb.all.map fun verb => (verb.name, verb.about)) ++ [("help", aboutHelp)]),
            ("Options", [("-h, --help", "Print help"), ("-V, --version", "Print version")])] }
  | .command verb => verb.helpPage
  | .help =>
      { about := aboutHelp
        usage := "help [COMMAND]..."
        lists := [("Arguments", [("[COMMAND]...", "Print help for the subcommand(s)")])] }

end Topic

end PlotTables
