import GSerialized.Flags
import GSerialized.Bytes
import GSerialized.Srid
import GSerialized.Ieee
import GSerialized.Geometry
import GSerialized.Encode
import GSerialized.Decode
import GSerialized.Layout
import GSerialized.RoundTrip
import GSerialized.Record
import GSerialized.Codec
import GSerialized.Empty
import GSerialized.Peek
import GSerialized.GetGbox
import GSerialized.Interleave
import GSerialized.Compare
import GSerialized.Header
import GSerialized.Alignment
import GSerialized.Accepted
import GSerialized.Message
import GSerialized.SridFrame
import GSerialized.PeekDecode
import GSerialized.Policy
