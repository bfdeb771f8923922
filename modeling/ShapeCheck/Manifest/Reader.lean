import ShapeCheck.Manifest.Basic
import ShapeCheck.Reading.Record

/-!
# Reading manifests

A manifest is a record of a runtime, which has a default, and of declarations; a
declaration is a record of a name and a shape, which may be null or left out.
-/

namespace ShapeCheck

open Reading

def Declaration.setName (name : String) (d : Declaration) : Declaration := ⟨name, d.shape⟩

def Declaration.setShape (shape : Option Shape) (d : Declaration) : Declaration :=
  ⟨d.name, shape⟩

def Declaration.form : RecordForm Declaration :=
  ⟨"struct Declaration", ⟨"", none⟩,
    [⟨"name", true, fun _ => string.map Declaration.setName⟩,
      ⟨"shape", false, fun depth =>
        (optional (Reading.shape depth)).map Declaration.setShape⟩]⟩

def Manifest.setRuntime (runtime : String) (m : Manifest) : Manifest :=
  ⟨runtime, m.declarations⟩

def Manifest.setDeclarations (declarations : List Declaration) (m : Manifest) : Manifest :=
  ⟨m.runtime, declarations⟩

def Manifest.form : RecordForm Manifest :=
  ⟨"struct Manifest", ⟨defaultRuntime, []⟩,
    [⟨"runtime", false, fun _ => string.map Manifest.setRuntime⟩,
      ⟨"declarations", true, fun depth =>
        (Reading.list Declaration.form.read depth).map Manifest.setDeclarations⟩]⟩

def Manifest.ofBytes (bytes : Bytes) : Except Report Manifest :=
  front Manifest.form.read bytes

def Manifest.ofText (text : String) : Except Report Manifest :=
  Manifest.ofBytes (Utf8.encode text)

def Shape.ofBytes (bytes : Bytes) : Except Report Shape :=
  front Reading.shape bytes

def loadMessage (reason : String) : String := "failed to load manifest: " ++ reason

end ShapeCheck
