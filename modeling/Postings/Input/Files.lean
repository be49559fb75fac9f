import Postings.Input.PostingFile

/-!
# Loading from files

Files are looked up by name.  A file that cannot be opened is a complaint
about the argument; a folder can be opened but not read.  Files hold plain
text or compressed text.  Decompression comes with the files: it gives some
sequence of reads for the content of a file, and nothing else is known of it.
-/

namespace Postings

/-- What is found under a name that can be opened. -/
inductive Entry where
  | file (bytes : List UInt8)
  | folder
  deriving DecidableEq

namespace Entry

/-- The reads of an entry, after decoding if its content is compressed. -/
def reads (decode : List UInt8 → Stream) (compressed : Bool) :
    Entry → Stream
  | .folder => [.failure .directory]
  | .file bytes => if compressed then decode bytes else [.data bytes]

end Entry

/-- The files at hand: what is found under a name, and the reads that come of
compressed content. -/
structure Files where
  entry : (path : String) → Except OpenError Entry
  decode : List UInt8 → Stream

namespace Files

def load (files : Files) (compressed : Bool) (layout : Layout)
    (path : String) : Traced PostingList :=
  match files.entry path with
  | .error reason => .fail (.argument (.cannotOpen path reason))
  | .ok entry => do
      .report (.loading path compressed)
      PostingFile.load layout (entry.reads files.decode compressed)

end Files

end Postings
