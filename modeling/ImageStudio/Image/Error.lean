import ImageStudio.Image.Format

/-!
# Image · Error: why an image could not be read

Reading an image fails in a few ways, and each prints in its own way: the bytes end too
early (a plain input error), a format's decoder finds the bytes malformed (the message
names the format), the format is one the service does not decode, or the decoder does not
support a feature of this particular file, or decoding would need more memory than
allowed.
-/

namespace ImageStudio

/-- A failure to read an image. -/
inductive ImageError where
  /-- The input ended or could not be read; the text is the input error's. -/
  | input (text : String)
  /-- The bytes are malformed for the format. -/
  | malformed (format : ImageFormat) (detail : String)
  /-- The format is recognised but not decoded. -/
  | unsupportedFormat (format : ImageFormat)
  /-- The decoder does not support a feature of this file. -/
  | unsupportedFeature (format : ImageFormat) (feature : String)
  /-- Decoding would need more memory than allowed. -/
  | memoryLimit
  deriving DecidableEq, Repr, Inhabited

namespace ImageError

/-- The input error of bytes that end inside a structure the decoder reads. -/
def endOfFile : ImageError := .input "unexpected end of file"

/-- The input error of a fixed-size read that found too few bytes. -/
def shortRead : ImageError := .input "failed to fill whole buffer"

/-- The message of the failure. -/
def message : ImageError → String
  | .input t => t
  | .malformed f d => "Format error decoding " ++ f.name ++ ": " ++ d
  | .unsupportedFormat f => "The image format " ++ f.name ++ " is not supported"
  | .unsupportedFeature f d =>
    "The decoder for " ++ f.name ++ " does not support the format features " ++ d
  | .memoryLimit => "Memory limit exceeded"

end ImageError

/-- The most bytes a decoded image may take. -/
def decodeMemoryLimit : Nat := 512 * 1024 * 1024

end ImageStudio
