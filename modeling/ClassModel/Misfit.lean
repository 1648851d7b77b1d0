import ClassModel.Text.Margin

/-!
# `Misfit` — values that cannot give what is asked of them

A document, a settings file or a caller may put any JSON value in any place. Most places check
their value and report its shape; the others carry the value along and use it later. A misfit says
which use failed. It has no wording: only the places that check have one.
-/

set_option autoImplicit false

namespace ClassModel

/-- A use of a value that its kind does not allow. -/
inductive Misfit
  /-- Only an object has entries. -/
  | entries
  /-- Only a text can be split at a separator. -/
  | parts
  /-- Numbers, truth values and `null` hold nothing that could be listed. -/
  | listing
  /-- A list or an object cannot be a key. -/
  | key
  /-- An empty walk has no last component. -/
  | last
  /-- Only a text can be the start of a name. -/
  | start
  /-- Texts, numbers and `null` have no common order. -/
  | order
  /-- Only a text or a list can be searched for a text. -/
  | search
  /-- Only a whole number counts blanks. -/
  | blanks
  /-- A number of blanks that no row has. -/
  | row (fault : Text.RowFault)
  /-- Only a text can become an identifier. -/
  | cleaning
  /-- Only a text names a file. -/
  | path
  /-- A name that no file can have because of its length. -/
  | fileName
  /-- No such setting. -/
  | setting
  /-- An empty separator separates nothing. -/
  | separator
  /-- A whole number with too many digits to be read. -/
  | digits
  /-- Bytes that are no text. -/
  | encoding
  /-- Values that stand too deep inside each other to be read. -/
  | depth
  /-- A name that a naming refuses for a reason of its own. -/
  | naming (reason : String)
  deriving DecidableEq, Repr

end ClassModel
