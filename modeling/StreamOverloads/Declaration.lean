import StreamOverloads.Line

/-
  The member declarations that the tool recognises.

  A class that can be written to a stream declares `streamTo`
  for the source stream, either as a pure virtual function or
  as a virtual one. Beside that declaration the tool puts the
  same declaration for the compressing and the decompressing
  stream.

  Key definitions include:
    * `StreamOverloads.StreamClass`
    * `StreamOverloads.Declaration`
    * `StreamOverloads.Declaration.signature`
    * `StreamOverloads.Declaration.expansion`
    * `StreamOverloads.Declaration.recognise?`
    * `StreamOverloads.forwardDeclarations`
-/

------------------------------------------------------------
-- Stream Classes
------------------------------------------------------------

namespace StreamOverloads

/- The stream classes that `streamTo` is declared for. -/
inductive StreamClass where
  | source
  | compress
  | decompress
  deriving DecidableEq

namespace StreamClass

/- The name of the class in a header. -/
def typeName : StreamClass → String
  | source => "SourceStream"
  | compress => "CompressStream_t"
  | decompress => "DeCompressStream_t"

/- The line that declares the class without defining it. -/
def forward
    (stream : StreamClass) : String :=
  "class " ++ stream.typeName ++ ";"

end StreamClass

/-
  The lines that stand at the top of every amended header:
  the classes that its overloads mention.
-/
def forwardDeclarations : List String :=
  [StreamClass.compress, StreamClass.decompress].map
    StreamClass.forward

/- The lines that stand at the top, as bytes. -/
def forwardLines : List Line :=
  forwardDeclarations.map Bytes.ofText

end StreamOverloads

------------------------------------------------------------
-- Recognised Declarations
------------------------------------------------------------

namespace StreamOverloads

/- The two shapes in which a class declares `streamTo`. -/
inductive Declaration where
  | pureVirtual
  | virtual
  deriving DecidableEq

namespace Declaration

/- Both shapes, in the order in which they are tried. -/
def all : List Declaration := [pureVirtual, virtual]

/- The name of a shape. -/
def name : Declaration → String
  | pureVirtual => "PureVirtual"
  | virtual => "Virtual"

/- What follows the parameter list. -/
def ending : Declaration → String
  | pureVirtual => " = 0;"
  | virtual => ";"

/- The declaration for one stream class. -/
def overload
    (decl : Declaration)
    (stream : StreamClass) : String :=
  "virtual void streamTo(" ++ stream.typeName ++
    " &s) const" ++ decl.ending

/- The declaration that a header is searched for. -/
def signature
    (decl : Declaration) : String :=
  decl.overload StreamClass.source

/-
  The declarations that take the place of the searched one,
  which comes first.
-/
def expansion
    (decl : Declaration) : List String :=
  [StreamClass.source, StreamClass.compress,
    StreamClass.decompress].map decl.overload

/- The searched declaration as bytes. -/
def signatureLine
    (decl : Declaration) : Line :=
  Bytes.ofText decl.signature

/- The replacing declarations as bytes. -/
def expansionLines
    (decl : Declaration) : List Line :=
  decl.expansion.map Bytes.ofText

/-
  The declaration that a line consists of, blank bytes around
  it aside. A line that holds anything else is none.
-/
def recognise?
    (line : Line) : Option Declaration :=
  all.find? fun decl =>
    decl.signatureLine == Bytes.trim line

end Declaration

end StreamOverloads
