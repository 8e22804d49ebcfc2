import SimLogger.Sanity.Steps

/-! What a failed `write_line_locked` leaves behind. The payload and the newline are two
`fwrite`s, and neither failure is rolled back. A short count from glibc's `fwrite` means the
`write(2)` that flushed its full buffer failed: a prefix of what the buffer held, earlier lines
and this one, reached the file, and the rest is gone. The counter has counted the payload
exactly when the payload's `fwrite` returned in full and the newline's then failed. -/

namespace SimLogger

end SimLogger
