import Mathlib.Tactic

/-!
# The sample mode of the edited driver

Raw frames need a camera driver that knows the raw format, so some of its files were edited.
The function that chooses the number of bytes of a pixel has a new alternative in its first
condition.  The alternative does not compare the format with anything and is always true,
so that every format is treated as a grayscale or raw one.
-/

namespace ECam.ImageProcessing

/-! ## The driver -/

/-- `pixformat_t`, in the order of its values. -/
inductive PixFormat where
  | rgb565
  | yuv422
  | grayscale
  | jpeg
  | rgb888
  | raw
  | rgb444
  | rgb555
  deriving DecidableEq, Repr

/-- The value of an enumerator. -/
def PixFormat.value : PixFormat → Nat
  | .rgb565 => 0
  | .yuv422 => 1
  | .grayscale => 2
  | .jpeg => 3
  | .rgb888 => 4
  | .raw => 5
  | .rgb444 => 6
  | .rgb555 => 7

/-- The product identifiers of the sensors that are told apart. -/
def ov2640Pid : UInt16 := 0x26

def ov3660Pid : UInt16 := 0x3660

def ov5640Pid : UInt16 := 0x5640

def nt99141Pid : UInt16 := 0x1410

/-- The sensors that send grayscale pixels as single bytes. -/
def SendsY8 (sensorPid : UInt16) : Prop :=
  sensorPid = ov3660Pid ∨ sensorPid = ov5640Pid ∨ sensorPid = nt99141Pid

instance (sensorPid : UInt16) : Decidable (SendsY8 sensorPid) :=
  inferInstanceAs (Decidable (_ ∨ _ ∨ _))

/-- `esp_err_t`, as far as it is returned here. -/
inductive EspErr where
  | ok
  | notSupported
  deriving DecidableEq, Repr

/-- The fields of `cam_obj_t` that the configuration sets. -/
structure CamObj where
  jpegMode : Bool
  frameCnt : UInt32
  recvSize : UInt32
  psramMode : Bool
  width : UInt16
  height : UInt16
  inBytesPerPixel : UInt8
  fbBytesPerPixel : UInt8
  fbSize : UInt32
  deriving DecidableEq, Repr

/-- Setting the bytes of a pixel, as the camera sends it and as the frame buffer stores it. -/
def CamObj.setBytesPerPixel (cam : CamObj) (inBytes fbBytes : UInt8) : CamObj :=
  { cam with inBytesPerPixel := inBytes, fbBytesPerPixel := fbBytes }

/-- The fields of `camera_config_t` that the configuration reads. -/
structure CameraConfig where
  pixelFormat : PixFormat
  xclkFreqHz : UInt32
  fbCount : UInt32
  deriving DecidableEq, Repr

/-- The type of `ll_cam_set_sample_mode`: the answer and the changed object. -/
abbrev SetSampleMode :=
  CamObj → PixFormat → (xclkFreqHz : UInt32) → (sensorPid : UInt16) → EspErr × CamObj

/-- What the two versions do for a format that is neither grayscale nor raw. -/
def setOtherSampleMode (cam : CamObj) (pixFormat : PixFormat) : EspErr × CamObj :=
  if pixFormat = .yuv422 ∨ pixFormat = .rgb565 then
    -- camera sends YU/YV, frame buffer stores YU/YV/RGB565
    (.ok, cam.setBytesPerPixel 2 2)
  else if pixFormat = .jpeg then
    (.ok, cam.setBytesPerPixel 1 1)
  else
    (.notSupported, cam)

namespace Unedited

/-- `ll_cam_set_sample_mode` of the component.  The clock frequency is not used. -/
def llCamSetSampleMode : SetSampleMode := fun cam pixFormat _ sensorPid =>
  if pixFormat = .grayscale then
    if SendsY8 sensorPid then
      -- camera sends Y8
      (.ok, cam.setBytesPerPixel 1 1)
    else
      -- camera sends YU/YV
      (.ok, cam.setBytesPerPixel 2 1)
  else
    setOtherSampleMode cam pixFormat

/-- The DMA mode of the component. -/
def psramMode (config : CameraConfig) : Bool :=
  config.xclkFreqHz == 16000000

end Unedited

namespace Edited

/-- `ll_cam_set_sample_mode` of the edited driver. -/
def llCamSetSampleMode : SetSampleMode := fun cam pixFormat _ sensorPid =>
  -- the second alternative is the enumerator itself
  if pixFormat = .grayscale ∨ PixFormat.raw.value ≠ 0 then
    if SendsY8 sensorPid then
      (.ok, cam.setBytesPerPixel 1 1)
    else if sensorPid = ov2640Pid ∨ pixFormat = .raw then
      (.ok, cam.setBytesPerPixel 1 1)
    else
      (.ok, cam.setBytesPerPixel 2 1)
  else
    setOtherSampleMode cam pixFormat

/-- The DMA mode of the edited driver. -/
def psramMode (_ : CameraConfig) : Bool :=
  true

end Edited

/-- `cam_config` up to the sizes of the buffers.  The answer of `ll_cam_set_sample_mode` is
not looked at.  The products are those of `int`s; sizes beyond them are undefined. -/
def camConfig (setSampleMode : SetSampleMode) (psramMode : CameraConfig → Bool)
    (config : CameraConfig) (width height sensorPid : UInt16) (cam : CamObj) : CamObj :=
  let sampled := (setSampleMode cam config.pixelFormat config.xclkFreqHz sensorPid).2
  let configured := { sampled with
    jpegMode := decide (config.pixelFormat = PixFormat.jpeg)
    psramMode := psramMode config
    frameCnt := config.fbCount
    width := width
    height := height }
  let pixels := width.toUInt32 * height.toUInt32
  if configured.jpegMode then
    { configured with
      recvSize := pixels / 5
      fbSize := pixels / 5 }
  else
    { configured with
      recvSize := pixels * configured.inBytesPerPixel.toUInt32
      fbSize := pixels * configured.fbBytesPerPixel.toUInt32 }

/-! ## What was changed -/

/-- The edit does not show: both versions give the same answer, set the same numbers of bytes
and lead to the same sizes of the buffers for every size of the frame. -/
structure EditUnnoticed (config : CameraConfig) (sensorPid : UInt16) (cam : CamObj) : Prop where
  answer :
    (Edited.llCamSetSampleMode cam config.pixelFormat config.xclkFreqHz sensorPid).1 =
      (Unedited.llCamSetSampleMode cam config.pixelFormat config.xclkFreqHz sensorPid).1
  inBytesPerPixel :
    (Edited.llCamSetSampleMode cam config.pixelFormat config.xclkFreqHz
      sensorPid).2.inBytesPerPixel =
      (Unedited.llCamSetSampleMode cam config.pixelFormat config.xclkFreqHz
        sensorPid).2.inBytesPerPixel
  fbBytesPerPixel :
    (Edited.llCamSetSampleMode cam config.pixelFormat config.xclkFreqHz
      sensorPid).2.fbBytesPerPixel =
      (Unedited.llCamSetSampleMode cam config.pixelFormat config.xclkFreqHz
        sensorPid).2.fbBytesPerPixel
  recvSize : ∀ width height,
    (camConfig Edited.llCamSetSampleMode Edited.psramMode config width height sensorPid
      cam).recvSize =
      (camConfig Unedited.llCamSetSampleMode Unedited.psramMode config width height sensorPid
        cam).recvSize
  fbSize : ∀ width height,
    (camConfig Edited.llCamSetSampleMode Edited.psramMode config width height sensorPid
      cam).fbSize =
      (camConfig Unedited.llCamSetSampleMode Unedited.psramMode config width height sensorPid
        cam).fbSize

variable {config : CameraConfig} {cam : CamObj} {pixFormat : PixFormat} {xclkFreqHz : UInt32}
  {sensorPid : UInt16}

theorem EditUnnoticed.of_eq
    (same : Edited.llCamSetSampleMode cam config.pixelFormat config.xclkFreqHz sensorPid =
      Unedited.llCamSetSampleMode cam config.pixelFormat config.xclkFreqHz sensorPid) :
    EditUnnoticed config sensorPid cam := by
  constructor
  · rw [same]
  · rw [same]
  · rw [same]
  · intro width height
    simp only [camConfig, same]
    split <;> rfl
  · intro width height
    simp only [camConfig, same]
    split <;> rfl

/-- The edited function accepts every format and stores one byte for each pixel. -/
theorem edited_llCamSetSampleMode :
    Edited.llCamSetSampleMode cam pixFormat xclkFreqHz sensorPid = (.ok, cam.setBytesPerPixel
      (if SendsY8 sensorPid ∨ sensorPid = ov2640Pid ∨ pixFormat = .raw then 1 else 2) 1) := by
  have always : pixFormat = .grayscale ∨ PixFormat.raw.value ≠ 0 := Or.inr (by decide)
  rw [Edited.llCamSetSampleMode, if_pos always]
  by_cases y8 : SendsY8 sensorPid
  · rw [if_pos y8, if_pos (Or.inl y8)]
  · rw [if_neg y8]
    by_cases single : sensorPid = ov2640Pid ∨ pixFormat = .raw
    · rw [if_pos single, if_pos (Or.inr single)]
    · rw [if_neg single, if_neg (not_or.mpr ⟨y8, single⟩)]

theorem unedited_grayscale :
    Unedited.llCamSetSampleMode cam .grayscale xclkFreqHz sensorPid =
      (.ok, cam.setBytesPerPixel (if SendsY8 sensorPid then 1 else 2) 1) := by
  rw [Unedited.llCamSetSampleMode, if_pos rfl]
  split <;> rfl

theorem unedited_other (other : pixFormat ≠ .grayscale) :
    Unedited.llCamSetSampleMode cam pixFormat xclkFreqHz sensorPid =
      setOtherSampleMode cam pixFormat :=
  if_neg other

/-- For grayscale frames the sensor that the edit names is treated differently. -/
theorem editUnnoticed_grayscale_iff (format : config.pixelFormat = .grayscale) :
    EditUnnoticed config sensorPid cam ↔ sensorPid ≠ ov2640Pid := by
  constructor
  · rintro unnoticed rfl
    have bytes := unnoticed.inBytesPerPixel
    rw [format, edited_llCamSetSampleMode, unedited_grayscale] at bytes
    cases bytes
  · intro others
    apply EditUnnoticed.of_eq
    rw [format, edited_llCamSetSampleMode, unedited_grayscale]
    simp [others]

/-- For compressed frames the edited driver expects two bytes from unknown sensors. -/
theorem editUnnoticed_jpeg_iff (format : config.pixelFormat = .jpeg) :
    EditUnnoticed config sensorPid cam ↔ SendsY8 sensorPid ∨ sensorPid = ov2640Pid := by
  have unedited : Unedited.llCamSetSampleMode cam .jpeg config.xclkFreqHz sensorPid =
      (.ok, cam.setBytesPerPixel 1 1) := rfl
  constructor
  · intro unnoticed
    have bytes := unnoticed.inBytesPerPixel
    rw [format, edited_llCamSetSampleMode, unedited] at bytes
    by_contra unknown
    rw [if_neg (by simpa using unknown)] at bytes
    cases bytes
  · intro known
    apply EditUnnoticed.of_eq
    rw [format, edited_llCamSetSampleMode, unedited]
    rw [if_pos (by tauto)]

/-- Frames with two bytes for each pixel are stored with one. -/
theorem not_editUnnoticed_of_two_bytes
    (format : config.pixelFormat = .yuv422 ∨ config.pixelFormat = .rgb565) :
    ¬EditUnnoticed config sensorPid cam := by
  intro unnoticed
  have bytes := unnoticed.fbBytesPerPixel
  rcases format with yuv422 | rgb565
  · rw [yuv422, edited_llCamSetSampleMode] at bytes
    cases bytes
  · rw [rgb565, edited_llCamSetSampleMode] at bytes
    cases bytes

/-- The edited driver accepts the formats that are not supported. -/
theorem not_editUnnoticed_of_unsupported
    (unsupported : ∀ cam, setOtherSampleMode cam config.pixelFormat = (.notSupported, cam))
    (format : config.pixelFormat ≠ .grayscale) : ¬EditUnnoticed config sensorPid cam := by
  intro unnoticed
  have answer := unnoticed.answer
  rw [edited_llCamSetSampleMode, unedited_other format, unsupported] at answer
  cases answer

/-- The edit does not show for grayscale frames of other sensors than the one it names, and
for compressed frames of the sensors that are told apart; it shows for all other formats. -/
theorem editUnnoticed_iff (config : CameraConfig) (sensorPid : UInt16) (cam : CamObj) :
    EditUnnoticed config sensorPid cam ↔
      (config.pixelFormat = .grayscale ∧ sensorPid ≠ ov2640Pid) ∨
      (config.pixelFormat = .jpeg ∧ (SendsY8 sensorPid ∨ sensorPid = ov2640Pid)) := by
  cases format : config.pixelFormat with
  | grayscale => simp [editUnnoticed_grayscale_iff format]
  | jpeg => simp [editUnnoticed_jpeg_iff format]
  | rgb565 => simp [not_editUnnoticed_of_two_bytes (Or.inr format)]
  | yuv422 => simp [not_editUnnoticed_of_two_bytes (Or.inl format)]
  | rgb888 | raw | rgb444 | rgb555 =>
      have shows : ¬EditUnnoticed config sensorPid cam := by
        apply not_editUnnoticed_of_unsupported
        · rw [format]
          intro cam
          rfl
        · rw [format]
          decide
      simp [shows]

/-- For RGB565 the edited driver allocates half of the bytes that a frame has. -/
theorem fbSize_rgb565 (format : config.pixelFormat = .rgb565) (width height : UInt16) :
    (camConfig Unedited.llCamSetSampleMode Unedited.psramMode config width height sensorPid
      cam).fbSize =
      (camConfig Edited.llCamSetSampleMode Edited.psramMode config width height sensorPid
        cam).fbSize * 2 := by
  have unedited : Unedited.llCamSetSampleMode cam .rgb565 config.xclkFreqHz sensorPid =
      (.ok, cam.setBytesPerPixel 2 2) := rfl
  have uncompressed : decide (PixFormat.rgb565 = PixFormat.jpeg) = false := rfl
  have one : (1 : UInt8).toUInt32 = 1 := rfl
  have two : (2 : UInt8).toUInt32 = 2 := rfl
  simp only [camConfig, format, edited_llCamSetSampleMode, unedited, uncompressed,
    CamObj.setBytesPerPixel, Bool.false_eq_true, if_false, one, two, UInt32.mul_one]

/-- The configuration of the marker detector. -/
def detectorConfig : CameraConfig :=
  ⟨.rgb565, 15000000, 2⟩

/-- The object before it is configured. -/
def emptyCamObj : CamObj :=
  ⟨false, 0, 0, false, 0, 0, 0, 0, 0⟩

/-- The frames of the marker detector have 240 by 240 words, or 115,200 bytes.  Built with
the edited driver it would get buffers of 57,600 bytes. -/
theorem detectorConfig_edit_noticed :
    ¬EditUnnoticed detectorConfig ov2640Pid emptyCamObj ∧
      (camConfig Unedited.llCamSetSampleMode Unedited.psramMode detectorConfig 240 240 ov2640Pid
        emptyCamObj).fbSize = 115200 ∧
      (camConfig Edited.llCamSetSampleMode Edited.psramMode detectorConfig 240 240 ov2640Pid
        emptyCamObj).fbSize = 57600 := by
  exact ⟨not_editUnnoticed_of_two_bytes (Or.inr rfl), by decide, by decide⟩

end ECam.ImageProcessing
