import FormatService.Settings.Basic
import FormatService.Json.Printer

/-!
# Settings as a text

The JSON text of settings, with every member and without blanks. Only the tool
paths that are set are written.
-/

set_option autoImplicit false

namespace FormatService.Settings

def printMember (name : String) (value : Text) : Text :=
  Json.printString name.toList ++ ':' :: value

def printObject (members : List Text) : Text :=
  '\x7b' :: (members.intersperse [',']).flatten ++ ['\x7d']

def printPaths (paths : ToolPaths) : Text :=
  printObject (paths.toList.map fun (tool, path) =>
    printMember tool.name (Json.printString path.toList))

def print (settings : Settings) : Text :=
  printObject
    [printMember "tool" (Json.printString settings.tool.name.toList),
     printMember "formatOnSave" (if settings.formatOnSave then "true".toList else "false".toList),
     printMember "toolPaths" (printPaths settings.toolPaths)]

end FormatService.Settings
