import Stencil.Text.Basic

/-!
# Classes of exceptions

The exceptions that scripts and the library raise, with the classes that each belongs to. Catching
a class catches everything below it.

## Main definitions

* `ExceptionClass` — the classes.
* `ExceptionClass.parents`, `ExceptionClass.isA` — the hierarchy.
* `ExceptionClass.named?` — the classes that scripts know by name.
* `ExceptionClass.ofNumber?` — the class for an error number of the system.
-/

namespace Stencil

/-- Classes of exceptions. -/
inductive ExceptionClass where
  | baseException
  | baseExceptionGroup
  | systemExit
  | keyboardInterrupt
  | generatorExit
  | cancelledError
  | exception
  | exceptionGroup
  | arithmeticError
  | floatingPointError
  | overflowError
  | zeroDivisionError
  | assertionError
  | attributeError
  | bufferError
  | endOfFileError
  | importError
  | moduleNotFoundError
  | lookupError
  | indexError
  | keyError
  | memoryError
  | nameError
  | unboundLocalError
  | osError
  | blockingError
  | childProcessError
  | connectionError
  | brokenPipeError
  | connectionAbortedError
  | connectionRefusedError
  | connectionResetError
  | fileExistsError
  | fileNotFoundError
  | interruptedError
  | isADirectoryError
  | notADirectoryError
  | permissionError
  | processLookupError
  | timeoutError
  | referenceError
  | runtimeError
  | notImplementedError
  | recursionError
  | stopAsyncIteration
  | stopIteration
  | syntaxError
  | indentationError
  | tabError
  | systemError
  | typeError
  | valueError
  | unicodeError
  | unicodeDecodeError
  | unicodeEncodeError
  | unicodeTranslateError
  | warning
  | bytesWarning
  | deprecationWarning
  | encodingWarning
  | futureWarning
  | importWarning
  | pendingDeprecationWarning
  | resourceWarning
  | runtimeWarning
  | syntaxWarning
  | unicodeWarning
  | userWarning
  /-- The errors of this library. -/
  | libraryError
  | transpileError
  | contextError
  | fileAccessError
  | yamlError
  | readerError
  | scannerError
  | parserError
  | composerError
  | constructorError
  | validationError
  deriving DecidableEq, Repr, Inhabited

namespace ExceptionClass

/-- The name of a class. -/
def text : ExceptionClass → String
  | baseException => "BaseException"
  | baseExceptionGroup => "BaseExceptionGroup"
  | systemExit => "SystemExit"
  | keyboardInterrupt => "KeyboardInterrupt"
  | generatorExit => "GeneratorExit"
  | cancelledError => "CancelledError"
  | exception => "Exception"
  | exceptionGroup => "ExceptionGroup"
  | arithmeticError => "ArithmeticError"
  | floatingPointError => "FloatingPointError"
  | overflowError => "OverflowError"
  | zeroDivisionError => "ZeroDivisionError"
  | assertionError => "AssertionError"
  | attributeError => "AttributeError"
  | bufferError => "BufferError"
  | endOfFileError => "EOFError"
  | importError => "ImportError"
  | moduleNotFoundError => "ModuleNotFoundError"
  | lookupError => "LookupError"
  | indexError => "IndexError"
  | keyError => "KeyError"
  | memoryError => "MemoryError"
  | nameError => "NameError"
  | unboundLocalError => "UnboundLocalError"
  | osError => "OSError"
  | blockingError => "BlockingIOError"
  | childProcessError => "ChildProcessError"
  | connectionError => "ConnectionError"
  | brokenPipeError => "BrokenPipeError"
  | connectionAbortedError => "ConnectionAbortedError"
  | connectionRefusedError => "ConnectionRefusedError"
  | connectionResetError => "ConnectionResetError"
  | fileExistsError => "FileExistsError"
  | fileNotFoundError => "FileNotFoundError"
  | interruptedError => "InterruptedError"
  | isADirectoryError => "IsADirectoryError"
  | notADirectoryError => "NotADirectoryError"
  | permissionError => "PermissionError"
  | processLookupError => "ProcessLookupError"
  | timeoutError => "TimeoutError"
  | referenceError => "ReferenceError"
  | runtimeError => "RuntimeError"
  | notImplementedError => "NotImplementedError"
  | recursionError => "RecursionError"
  | stopAsyncIteration => "StopAsyncIteration"
  | stopIteration => "StopIteration"
  | syntaxError => "SyntaxError"
  | indentationError => "IndentationError"
  | tabError => "TabError"
  | systemError => "SystemError"
  | typeError => "TypeError"
  | valueError => "ValueError"
  | unicodeError => "UnicodeError"
  | unicodeDecodeError => "UnicodeDecodeError"
  | unicodeEncodeError => "UnicodeEncodeError"
  | unicodeTranslateError => "UnicodeTranslateError"
  | warning => "Warning"
  | bytesWarning => "BytesWarning"
  | deprecationWarning => "DeprecationWarning"
  | encodingWarning => "EncodingWarning"
  | futureWarning => "FutureWarning"
  | importWarning => "ImportWarning"
  | pendingDeprecationWarning => "PendingDeprecationWarning"
  | resourceWarning => "ResourceWarning"
  | runtimeWarning => "RuntimeWarning"
  | syntaxWarning => "SyntaxWarning"
  | unicodeWarning => "UnicodeWarning"
  | userWarning => "UserWarning"
  | libraryError => "BlankError"
  | transpileError => "TranspileError"
  | contextError => "ContextError"
  | fileAccessError => "FileAccessError"
  | yamlError => "YAMLError"
  | readerError => "ReaderError"
  | scannerError => "ScannerError"
  | parserError => "ParserError"
  | composerError => "ComposerError"
  | constructorError => "ConstructorError"
  | validationError => "ValidationError"

/-- The classes directly above. -/
def parents : ExceptionClass → List ExceptionClass
  | baseException => []
  | baseExceptionGroup | systemExit | keyboardInterrupt | generatorExit | cancelledError
  | exception => [baseException]
  | exceptionGroup => [baseExceptionGroup, exception]
  | arithmeticError | assertionError | attributeError | bufferError | endOfFileError
  | importError | lookupError | memoryError | nameError | osError | referenceError | runtimeError
  | stopAsyncIteration | stopIteration | syntaxError | systemError | typeError | valueError
  | warning | libraryError | yamlError => [exception]
  | floatingPointError | overflowError | zeroDivisionError => [arithmeticError]
  | moduleNotFoundError => [importError]
  | indexError | keyError => [lookupError]
  | unboundLocalError => [nameError]
  | blockingError | childProcessError | connectionError | fileExistsError | fileNotFoundError
  | interruptedError | isADirectoryError | notADirectoryError | permissionError
  | processLookupError | timeoutError => [osError]
  | brokenPipeError | connectionAbortedError | connectionRefusedError
  | connectionResetError => [connectionError]
  | notImplementedError | recursionError => [runtimeError]
  | indentationError => [syntaxError]
  | tabError => [indentationError]
  | unicodeError | validationError => [valueError]
  | unicodeDecodeError | unicodeEncodeError | unicodeTranslateError => [unicodeError]
  | bytesWarning | deprecationWarning | encodingWarning | futureWarning | importWarning
  | pendingDeprecationWarning | resourceWarning | runtimeWarning | syntaxWarning | unicodeWarning
  | userWarning => [warning]
  | transpileError | contextError | fileAccessError => [libraryError]
  | readerError | scannerError | parserError | composerError | constructorError => [yamlError]

/-- The classes above, itself first. -/
def ancestors (c : ExceptionClass) : List ExceptionClass :=
  go 5 c
where
  go : Nat → ExceptionClass → List ExceptionClass
    | 0, c => [c]
    | n + 1, c => c :: c.parents.flatMap (go n)

/-- A class is another or below it. -/
def isA (c d : ExceptionClass) : Bool := c.ancestors.contains d

/-- The classes that scripts know by their names. -/
def known : List ExceptionClass :=
  [baseException, baseExceptionGroup, systemExit, keyboardInterrupt, generatorExit, exception,
    exceptionGroup, arithmeticError, floatingPointError, overflowError, zeroDivisionError,
    assertionError, attributeError, bufferError, endOfFileError, importError, moduleNotFoundError,
    lookupError, indexError, keyError, memoryError, nameError, unboundLocalError, osError,
    blockingError, childProcessError, connectionError, brokenPipeError, connectionAbortedError,
    connectionRefusedError, connectionResetError, fileExistsError, fileNotFoundError,
    interruptedError, isADirectoryError, notADirectoryError, permissionError, processLookupError,
    timeoutError, referenceError, runtimeError, notImplementedError, recursionError,
    stopAsyncIteration, stopIteration, syntaxError, indentationError, tabError, systemError,
    typeError, valueError, unicodeError, unicodeDecodeError, unicodeEncodeError,
    unicodeTranslateError, warning, bytesWarning, deprecationWarning, encodingWarning,
    futureWarning, importWarning, pendingDeprecationWarning, resourceWarning, runtimeWarning,
    syntaxWarning, unicodeWarning, userWarning]

/-- Further names of classes. -/
def synonyms : List (String × ExceptionClass) :=
  [("EnvironmentError", osError), ("IOError", osError)]

/-- The class that scripts know by a name. -/
def named? (id : Text) : Option ExceptionClass :=
  (known.find? fun c => Text.ofString c.text == id).or
    ((synonyms.find? fun (name, _) => Text.ofString name == id).map (·.2))

/-- The classes of exceptions for error numbers of the system. -/
def numbered : List (Int × ExceptionClass) :=
  [(1, permissionError), (2, fileNotFoundError), (3, processLookupError), (4, interruptedError),
    (10, childProcessError), (11, blockingError), (13, permissionError), (17, fileExistsError),
    (20, notADirectoryError), (21, isADirectoryError), (32, brokenPipeError),
    (103, connectionAbortedError), (104, connectionResetError), (108, brokenPipeError),
    (110, timeoutError), (111, connectionRefusedError), (114, blockingError),
    (115, blockingError)]

/-- The class of exceptions for an error number of the system. -/
def ofNumber? (number : Int) : Option ExceptionClass :=
  (numbered.find? fun (n, _) => n == number).map (·.2)

end ExceptionClass

end Stencil
