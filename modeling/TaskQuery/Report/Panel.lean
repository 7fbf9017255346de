import TaskQuery.Report.Cell

namespace TaskQuery.Report

def terminalColumns : Nat := 80

/-- A text in a frame. -/
def panel (s : String) : String :=
  let columns := min (measure s) (terminalColumns - 4)
  let rule := List.replicate (columns + 2) '─'
  let body := (linesOf s).map fun line => '│' :: ' ' :: (Text.fitTo columns line ++ [' ', '│'])
  let lines := ('╭' :: (rule ++ ['╮'])) :: (body ++ ['╰' :: (rule ++ ['╯'])])
  String.join (lines.map fun line => String.ofList line ++ "\n")

/-- A text as it is shown, with the end of its last line. -/
def plain (s : String) : String :=
  "\n".intercalate ((linesOf s).map String.ofList) ++ "\n"

example : panel "ab\n ^" = "╭────╮\n│ ab │\n│  ^ │\n╰────╯\n" := by decide +kernel

end TaskQuery.Report
