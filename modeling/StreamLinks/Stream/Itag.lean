/-!
The known stream numbers of the provider.
-/
namespace StreamLinks.Itag

/-- Numbers with the container, tracks and height that they stand for. -/
def known : List (List Nat × String) := [
  ([5], "flv, video, 240p, audio"),
  ([6], "flv, video, 270p, audio"),
  ([13, 36], "3gp, video, audio"),
  ([17], "3gp, video, 144p, audio"),
  ([18, 82, 93], "mp4, video, 360p, audio"),
  ([22, 84, 95], "mp4, video, 720p, audio"),
  ([34], "flv, video, 360p, audio"),
  ([35], "flv, video, 480p, audio"),
  ([37, 85, 96], "mp4, video, 1080p, audio"),
  ([38], "mp4, video, 3072p, audio"),
  ([43, 100], "webm, video, 360p, audio"),
  ([44, 101], "webm, video, 480p, audio"),
  ([45, 102], "webm, video, 720p, audio"),
  ([46], "webm, video, 1080p, audio"),
  ([59, 78, 83, 94], "mp4, video, 480p, audio"),
  ([91], "mp4, video, 144p, audio"),
  ([92, 132], "mp4, video, 240p, audio"),
  ([151], "mp4, video, 72p, audio"),
  ([133, 395, 695], "mp4, video, 240p"),
  ([134, 396, 696], "mp4, video, 360p"),
  ([135, 212, 397, 697], "mp4, video, 480p"),
  ([136, 298, 398, 698], "mp4, video, 720p"),
  ([137, 299, 399, 699], "mp4, video, 1080p"),
  ([138], "mp4, video"),
  ([160, 394, 597, 694], "mp4, video, 144p"),
  ([264, 400, 700], "mp4, video, 1440p"),
  ([266, 401, 701], "mp4, video, 2160p"),
  ([139, 140, 141, 256, 258, 325, 328, 380, 599, 773], "m4a, audio"),
  ([167, 243, 332], "webm, video, 360p"),
  ([168, 218, 219, 244, 245, 246, 333], "webm, video, 480p"),
  ([169, 247, 302, 334], "webm, video, 720p"),
  ([170, 248, 303, 335], "webm, video, 1080p"),
  ([278, 330, 598], "webm, video, 144p"),
  ([242, 331], "webm, video, 240p"),
  ([271, 308, 336], "webm, video, 1440p"),
  ([272, 313, 315, 337], "webm, video, 2160p"),
  ([171, 172, 249, 250, 251, 600], "webm, audio"),
  ([571, 702], "mp4, video, 4320p")]

/-- What a number stands for. -/
def describe (itag : Nat) : String :=
  ((known.find? fun (numbers, _) => numbers.contains itag).map (·.2)).getD "Unknown"

end StreamLinks.Itag
