import BitProbe.Bench.Condition
import BitProbe.Bench.Programs.Blocks
import BitProbe.Bench.Programs.Comparison
import BitProbe.Bench.Programs.Counting
import BitProbe.Bench.Programs.Dating
import BitProbe.Bench.Programs.Differing
import BitProbe.Bench.Programs.Digesting
import BitProbe.Bench.Programs.Dump
import BitProbe.Bench.Programs.Editing
import BitProbe.Bench.Programs.Encoding
import BitProbe.Bench.Programs.Ends
import BitProbe.Bench.Programs.Factoring
import BitProbe.Bench.Programs.Facts
import BitProbe.Bench.Programs.Finding
import BitProbe.Bench.Programs.Folding
import BitProbe.Bench.Programs.Joining
import BitProbe.Bench.Programs.Naming
import BitProbe.Bench.Programs.Numbering
import BitProbe.Bench.Programs.Pasting
import BitProbe.Bench.Programs.Numbers
import BitProbe.Bench.Programs.Repeating
import BitProbe.Bench.Programs.Scratch
import BitProbe.Bench.Programs.Scaling
import BitProbe.Bench.Programs.Searching
import BitProbe.Bench.Programs.Selection
import BitProbe.Bench.Programs.Sorting
import BitProbe.Bench.Programs.Terms
import BitProbe.Bench.Programs.Translation

/-!
The programs of the bench by their names.
-/

namespace BitProbe.Bench

/-- Every program that can be started by name and starts no others. -/
def programs : List (String × Program) :=
  [("true", quitter 0), ("false", quitter 1), ("printf", printf),
   ("echo", echo), ("test", test), ("[", bracket), ("cat", cat),
   ("tac", tac), ("rev", rev), ("tee", tee), ("yes", yes), ("head", head),
   ("tail", tail), ("wc", wc), ("tr", tr), ("cut", cut), ("paste", paste), ("nl", nl), ("fold", fold),
   ("sed", sed), ("grep", grep), ("egrep", egrep), ("fgrep", fgrep),
   ("sort", sort), ("uniq", uniq),
   ("expand", expand), ("unexpand", unexpand), ("od", od),
   ("factor", factor), ("numfmt", numfmt),
   ("sleep", sleep), ("expr", expr), ("seq", seq), ("dd", dd), ("cmp", cmp), ("comm", comm), ("diff", diff),
   ("join", join),
   ("base64", base64), ("base32", base32),
   ("basenc", basenc), ("md5sum", md5sum), ("sha1sum", sha1sum),
   ("sha224sum", sha224sum), ("sha256sum", sha256sum), ("sha384sum", sha384sum),
   ("sha512sum", sha512sum), ("b2sum", b2sum), ("cksum", cksum), ("sum", sum),
   ("cp", cp), ("mv", mv), ("ln", ln), ("link", link), ("rm", rm), ("rmdir", rmdir),
   ("unlink", unlink), ("mkdir", mkdir), ("touch", touch), ("mktemp", mktemp),
   ("truncate", truncate), ("chmod", chmod), ("basename", basename),
   ("date", date),
   ("dirname", dirname), ("find", find), ("readlink", readlink), ("realpath", realpath),
   ("pwd", pwd), ("ls", ls), ("dir", dir), ("vdir", vdir), ("stat", stat), ("printenv", printenv),
   ("which", which), ("whoami", whoami), ("id", id), ("groups", groups),
   ("logname", logname), ("uname", uname), ("arch", arch), ("tty", tty)]

end BitProbe.Bench
