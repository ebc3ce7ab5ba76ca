import Pipeline.Script.Compare
import Pipeline.Script.Dates
import Pipeline.Script.Digest
import Pipeline.Script.Edit
import Pipeline.Script.FileTools
import Pipeline.Script.LineTools
import Pipeline.Script.Search
import Pipeline.Script.Terms

/-! The programs that scripts can start. -/

namespace Pipeline.Script.Tool

/-- `uname`. -/
def systemName (call : Call) : Effect :=
  let letters := (call.request [] []).letters
  let text := if letters.contains 'm' then "x86_64" else "Linux"
  call.prints (Octets.ofText (text ++ "\n"))

/-- `id`. -/
def userNumber (call : Call) : Effect :=
  let letters := (call.request [] []).letters
  let text := if letters.contains 'n' then "root"
    else if letters.contains 'u' || letters.contains 'g' then "0"
    else "uid=0(root) gid=0(root) groups=0(root)"
  call.prints (Octets.ofText (text ++ "\n"))

/-- The programs by name. -/
def programs : List (String × (Call → Effect)) :=
  [("rm", remove), ("rmdir", removeDirectory), ("mkdir", makeDirectory), ("touch", touch),
    ("cp", copy false), ("mv", copy true), ("ls", list), ("head", ends false), ("tail", ends true),
    ("cat", concatenate), ("wc", count), ("sort", sort), ("uniq", unique), ("seq", sequence),
    ("tr", exchange), ("cut", cut), ("grep", search), ("egrep", search), ("sed", edit),
    ("basename", baseName), ("dirname", directoryName), ("tee", tee),
    ("realpath", realPath), ("readlink", realPath), ("stat", describe), ("du", diskUsage),
    ("printenv", showEnvironment), ("true", fun call => call.ends 0),
    ("false", fun call => call.ends 1),
    ("tac", fun call => call.filter call.arguments fun o =>
      Octets.unlines (Octets.lines o).reverse),
    ("rev", fun call => call.filter call.arguments fun o =>
      Octets.unlines ((Octets.lines o).map List.reverse)),
    ("nl", numberLines), ("paste", paste), ("fold", foldLines), ("expr", term), ("date", date),
    ("base64", base64), ("sha256sum", digests Digest.digest256),
    ("md5sum", digests Digest.digest128), ("diff", difference), ("cmp", compareOctets),
    ("comm", common), ("uname", systemName), ("id", userNumber),
    ("whoami", fun call => call.prints "root\n".toList),
    ("nproc", fun call => call.prints "4\n".toList),
    ("hostname", fun call => call.prints "localhost\n".toList),
    ("sync", fun call => call.ends 0)]

/-- The program of a name. -/
def program? (name : String) : Option (Call → Effect) := programs.lookup name

end Pipeline.Script.Tool
