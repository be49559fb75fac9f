import Postings.Failure

/-!
# Streams and their lines

A stream is a sequence of chunks and mishaps.  A read delivers the bytes of a
chunk, fails, or is interrupted; an interrupted read is tried again.  A read
of no bytes would be the end of the input, so an empty chunk is never handed
on as a read: it is passed over.  Lines are collected from read to read: the
bytes of a line that has not ended are carried on to the next read.

A line ends with a line feed, and one carriage return before the line feed
belongs to the ending.  Bytes after the last line feed are a line too.  A
failed read drops the line begun before it and counts as a line itself.
-/

namespace Postings

/-- What comes next in a stream: a chunk of bytes, perhaps empty, or a read
that goes wrong. -/
inductive Read where
  | data (bytes : List UInt8)
  | failure (cause : ReadError)
  | interrupted
  deriving DecidableEq

abbrev Stream := List Read

/-- A line, or the reason why there is none in its place. -/
abbrev Line := Except ReadError String

namespace Line

def ofBytes (bytes : List UInt8) : Line :=
  match String.fromUTF8? bytes.toByteArray with
  | some text => .ok text
  | none => .error .notUtf8

end Line

namespace Stream

def lineFeed : UInt8 := 10

def carriageReturn : UInt8 := 13

/-- The bytes of a line that a line feed has ended, given with the last byte
first. -/
def endedBytes : List UInt8 → List UInt8
  | last :: earlier =>
      if last = carriageReturn then earlier.reverse
      else (last :: earlier).reverse
  | [] => []

/-- The lines that end within the bytes of one read, and the bytes begun after
the last of them.  Bytes of a line begun are given with the last byte
first. -/
def feed (begun : List UInt8) : List UInt8 → List Line × List UInt8
  | [] => ([], begun)
  | value :: rest =>
      if value = lineFeed then
        let later := feed [] rest
        (Line.ofBytes (endedBytes begun) :: later.1, later.2)
      else
        feed (value :: begun) rest

/-- The lines of the remaining reads, when some bytes of a line have been
read before. -/
def linesAfter (begun : List UInt8) : List Read → List Line
  | [] => if begun.isEmpty then [] else [Line.ofBytes begun.reverse]
  | .data bytes :: reads =>
      let fed := feed begun bytes
      fed.1 ++ linesAfter fed.2 reads
  | .failure cause :: reads => .error cause :: linesAfter [] reads
  | .interrupted :: reads => linesAfter begun reads

def lines (stream : Stream) : List Line :=
  linesAfter [] stream

end Stream

end Postings
