import MediaNode.Fault
import MediaNode.Rpc.Failure

/-!
# Reports of failures

A failure at the command line is reported with everything that it came from, the
nearest cause first. Causes are numbered when there is more than one.
-/
namespace MediaNode

/-- A cause of a connection's end with what it came from. -/
def Rpc.CodecError.chain : Rpc.CodecError → List String
  | .io text => [(CodecError.io text).message, text]
  | .json cause => [(CodecError.json cause).message, cause.message]
  | .tooLarge max => [(CodecError.tooLarge max).message]

/-- A cause of a failed call with what it came from. -/
def Rpc.CallError.chain (error : Rpc.CallError) : List String :=
  error.message :: match error with
    | .io text => [text]
    | .codec cause => cause.chain
    | .json cause => [cause.message]
    | _ => []

/-- Why there are no settings, with what it came from. -/
def SettingsError.chain (error : SettingsError) : List String :=
  error.message :: match error with
    | .io cause => [cause.message]
    | .config _ => []

/-- A fault with what it came from. -/
def Fault.chain (fault : Fault) : List String :=
  fault.message :: match fault with
    | .io text => [text]
    | _ => []

namespace CommandLine

/-- A failure and its causes. -/
structure Report where
  message : String
  causes : List String := []
deriving DecidableEq, Repr, Inhabited

namespace Report

/-- The report whose message is the first of a chain. -/
def ofChain (chain : List String) : Report := { message := chain.headD "", causes := chain.drop 1 }

/-- A text with something in front of its first line and blanks in front of the
others. -/
def indented (front : String) (text : String) : String :=
  let indent := "\n" ++ String.ofList (List.replicate front.length ' ')
  front ++ indent.intercalate ((Text.splitAll '\n' text.toList).map String.ofList)

/-- The causes, numbered from zero when there are several. -/
def causeTexts (report : Report) : List String :=
  match report.causes with
  | [cause] => [indented "    " cause]
  | causes => causes.zipIdx.map fun (cause, n) => indented ("    " ++ Text.decimal n ++ ": ") cause

/-- The whole report. -/
def text (report : Report) : String :=
  "\n".intercalate <| ("Error: " ++ report.message) ::
    if report.causes.isEmpty then [] else ["", "Caused by:"] ++ report.causeTexts

end Report
end CommandLine
end MediaNode
